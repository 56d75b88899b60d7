import Conformance.Proofs.Reentry
import Mathlib.Tactic.TFAE

/-!
# Agreement of the ways to ask

A check passes the outcome of the match on, and verdict and report can be read off what it ends in.
Whether failed checks are noted changes none of the three, also if predicates ask for verdicts
themselves: notes are events, and no result depends on events.
-/

namespace Conformance

/-! ### One outcome, told in three ways -/

namespace Context

variable {c d : Context} {v raw : Value}

theorem accepts_of_error {f : Fault} (hf : c.heap.toPattern raw = .error f) :
    c.accepts v raw = Run.fault f := by
  rw [accepts, matchAt_of_error hf]
  rfl

theorem explain_of_error {f : Fault} (hf : c.heap.toPattern raw = .error f) :
    c.explain v raw = Run.fault f := by
  rw [explain, matchAt_of_error hf]
  rfl

theorem accepts_result_of_check (c : Context) (v raw : Value) :
    (c.accepts v raw).result =
      match (c.check v raw).result with
      | .ok _ => .ok true
      | .error (.mismatch _) => .ok false
      | .error (.fault f) => .error (.fault f) := by
  cases hp : c.heap.toPattern raw with
  | error f => rw [accepts_of_error hp, check_of_error hp, Run.result_fault, Run.result_fault]
  | ok p =>
    rw [check_result hp]
    refine (accepts_result hp).trans ?_
    rcases (p.matcher c v "").result with (m | f) | u <;> rfl

theorem explain_result_of_check (c : Context) (v raw : Value) :
    (c.explain v raw).result =
      match (c.check v raw).result with
      | .ok _ => .ok (.conforming c.coreVersion)
      | .error (.mismatch m) => .ok (.diverging c.coreVersion m)
      | .error (.fault f) => .error (.fault f) := by
  cases hp : c.heap.toPattern raw with
  | error f => rw [explain_of_error hp, check_of_error hp, Run.result_fault, Run.result_fault]
  | ok p =>
    rw [check_result hp]
    refine (explain_result hp).trans ?_
    rcases (p.matcher c v "").result with (m | f) | u <;> rfl

theorem accepts_true_iff_check :
    (c.accepts v raw).result = .ok true ↔ (c.check v raw).result = .ok () := by
  rw [accepts_result_of_check]
  rcases (c.check v raw).result with (m | f) | u <;> simp

theorem accepts_false_iff_check :
    (c.accepts v raw).result = .ok false ↔ ∃ m, (c.check v raw).result = .error (.mismatch m) := by
  rw [accepts_result_of_check]
  rcases (c.check v raw).result with (m | f) | u <;> simp

theorem accepts_fault_iff_check {f : Fault} :
    (c.accepts v raw).result = .error (.fault f) ↔ (c.check v raw).result = .error (.fault f) := by
  rw [accepts_result_of_check]
  rcases (c.check v raw).result with (m | g) | u <;> simp

theorem explain_ok_iff_check {report : Report} :
    (c.explain v raw).result = .ok report ↔
      ((c.check v raw).result = .ok () ∧ report = .conforming c.coreVersion) ∨
        ∃ m, (c.check v raw).result = .error (.mismatch m) ∧
          report = .diverging c.coreVersion m := by
  rw [explain_result_of_check]
  rcases (c.check v raw).result with (m | f) | u <;> simp [eq_comm]

theorem explain_fault_iff_check {f : Fault} :
    (c.explain v raw).result = .error (.fault f) ↔ (c.check v raw).result = .error (.fault f) := by
  rw [explain_result_of_check]
  rcases (c.check v raw).result with (m | g) | u <;> simp

/-- The ways to ask tell the same about the value. What a mismatch says is told by its reason and
its path. -/
structure WaysAgree (c : Context) (v raw : Value) : Prop where
  conforming : List.TFAE [
    (c.check v raw).result = .ok (),
    (c.accepts v raw).result = .ok true,
    (c.explain v raw).result = .ok ⟨true, none, none, "", c.coreVersion⟩,
    ∃ report, (c.explain v raw).result = .ok report ∧ report.ok = true]
  diverging : List.TFAE [
    ∃ m, (c.check v raw).result = .error (.mismatch m),
    (c.accepts v raw).result = .ok false,
    ∃ report, (c.explain v raw).result = .ok report ∧ report.ok = false]
  report : ∀ reason path,
    (∃ m, (c.check v raw).result = .error (.mismatch m) ∧ m.reason.text = reason ∧ m.path = path) ↔
      (c.explain v raw).result = .ok
        ⟨false, some ("Match error: " ++ reason ++ if path = "" then "" else " in field " ++ path),
          some reason, path, c.coreVersion⟩
  fault : ∀ f, List.TFAE [
    (c.check v raw).result = .error (.fault f),
    (c.accepts v raw).result = .error (.fault f),
    (c.explain v raw).result = .error (.fault f)]

theorem waysAgree (c : Context) (v raw : Value) : c.WaysAgree v raw where
  conforming := by
    tfae_have 1 ↔ 2 := accepts_true_iff_check.symm
    tfae_have 1 → 3 := fun hok => explain_ok_iff_check.mpr (.inl ⟨hok, rfl⟩)
    tfae_have 3 → 4 := fun hreport => ⟨_, hreport, rfl⟩
    tfae_have 4 → 1 := by
      rintro ⟨report, hreport, hok⟩
      rcases explain_ok_iff_check.mp hreport with ⟨hcheck, -⟩ | ⟨m, -, rfl⟩
      · exact hcheck
      · cases hok
    tfae_finish
  diverging := by
    tfae_have 1 ↔ 2 := accepts_false_iff_check.symm
    tfae_have 1 → 3 := by
      rintro ⟨m, hm⟩
      exact ⟨_, explain_ok_iff_check.mpr (.inr ⟨m, hm, rfl⟩), rfl⟩
    tfae_have 3 → 1 := by
      rintro ⟨report, hreport, hok⟩
      rcases explain_ok_iff_check.mp hreport with ⟨-, rfl⟩ | ⟨m, hm, -⟩
      · cases hok
      · exact ⟨m, hm⟩
    tfae_finish
  report := by
    intro reason path
    rw [explain_ok_iff_check]
    constructor
    · rintro ⟨m, hm, rfl, rfl⟩
      exact .inr ⟨m, hm, rfl⟩
    · rintro (⟨-, heq⟩ | ⟨m, hm, heq⟩)
      · exact absurd (congrArg Report.ok heq) Bool.false_ne_true
      · have hreason := Option.some.inj (congrArg Report.reason heq)
        have hpath := congrArg Report.path heq
        exact ⟨m, hm, hreason.symm, hpath.symm⟩
  fault := by
    intro f
    tfae_have 1 ↔ 2 := accepts_fault_iff_check.symm
    tfae_have 1 ↔ 3 := explain_fault_iff_check.symm
    tfae_finish

end Context

/-! ### Notes -/

namespace Pattern

variable {c d : Context}

theorem matcher_eq_of_call_eq (hheap : c.heap = d.heap) (hcall : c.call = d.call) (p : Pattern)
    (v : Value) (path : String) : p.matcher c v path = p.matcher d v path := by
  induction p using formInduction generalizing v path with
  | leaf p hp => rw [leaf_matcher c v path hp, leaf_matcher d v path hp, hheap]
  | container p hp ih =>
    have hvisit : ∀ b ∈ p.visits d.heap v, b.run c path = b.run d path := by
      intro b hb
      cases hd : b.demand with
      | conform q =>
        have hq : q.matcher c b.part = q.matcher d b.part :=
          funext fun t => ih q (mem_parts_of_mem_visits hb hd) b.part t
        simp only [Visit.run, hd, hheap, hq]
      | nothing => simp only [Visit.run, hd]
      | absence => simp only [Visit.run, hd, hheap]
    rw [container_matcher c v path hp, container_matcher d v path hp, hheap, Run.each_congr hvisit]
  | wrap w p ih => rw [wrap_matcher, wrap_matcher, ih]
  | oneOf choices ih =>
    induction choices with
    | nil => rfl
    | cons p rest ihrest =>
      obtain ⟨hp, hrest⟩ := List.forall_mem_cons.mp ih
      rw [oneOf_cons_matcher, oneOf_cons_matcher, hp, ihrest hrest]
  | satisfies f => simp only [matcher, Matcher.satisfies, hheap, hcall]

end Pattern

/-- The contexts differ at most in what is noted: their calls end alike. -/
structure Context.Alike (c d : Context) : Prop where
  heap : c.heap = d.heap
  coreVersion : c.coreVersion = d.coreVersion
  call : ∀ f x, (c.call f x).result = (d.call f x).result

namespace Context.Alike

variable {c d : Context}

theorem matcher_result (h : c.Alike d) (p : Pattern) (v : Value) (path : String) :
    (p.matcher c v path).result = (p.matcher d v path).result := by
  -- between the two stands the first context with the calls of the second
  let e : Context := ⟨c.heap, c.notesMismatches, c.coreVersion, d.call⟩
  have hce : c.Approximates e := ⟨rfl, rfl, rfl, fun f x => .of_result_eq (h.call f x)⟩
  have hec : e.Approximates c := ⟨rfl, rfl, rfl, fun f x => .of_result_eq (h.call f x).symm⟩
  have hresult : (p.matcher c v path).result = (p.matcher e v path).result :=
    (p.matcher_approximates hce v path).antisymm (p.matcher_approximates hec v path)
  have hed : p.matcher e v path = p.matcher d v path :=
    Pattern.matcher_eq_of_call_eq (c := e) h.heap rfl p v path
  rw [hresult, hed]

theorem check_result (h : c.Alike d) (v raw : Value) :
    (c.check v raw).result = (d.check v raw).result := by
  cases hp : c.heap.toPattern raw with
  | error f => rw [check_of_error hp, check_of_error (h.heap ▸ hp)]
  | ok p =>
    rw [Context.check_result hp, Context.check_result (h.heap ▸ hp)]
    exact h.matcher_result p v ""

theorem accepts_result (h : c.Alike d) (v raw : Value) :
    (c.accepts v raw).result = (d.accepts v raw).result := by
  rw [accepts_result_of_check, accepts_result_of_check, h.check_result]

theorem explain_result (h : c.Alike d) (v raw : Value) :
    (c.explain v raw).result = (d.explain v raw).result := by
  rw [explain_result_of_check, explain_result_of_check, h.check_result, h.coreVersion]

theorem ask_result (h : c.Alike d) (v raw : Value) (way : Way) :
    (c.ask v raw way).result = (d.ask v raw way).result := by
  cases way with
  | check =>
    have hcheck := h.check_result v raw
    rw [ask, ask]
    rcases hd : (d.check v raw).result with (m | f) | u <;>
      simp [Run.andThen, Run.recover, hcheck, hd, Run.ok]
  | accepts => exact h.accepts_result v raw
  | explain => exact h.explain_result v raw

theorem run_result (h : c.Alike d) (script : Script) :
    (script.run c).result = (script.run d).result := by
  induction script with
  | done answer => rfl
  | fail e => rfl
  | ask way v raw next ih =>
    -- the answers are the same, so both go on with the same script
    have hask := h.ask_result v raw way
    rw [Script.run, Script.run]
    cases hd : (d.ask v raw way).result with
    | error e => simp [Run.andThen, hask, hd]
    | ok a => simp [Run.andThen, hask, hd, ih a]

end Context.Alike

namespace Setting

/-- The setting in which failed checks are noted or not. -/
def noting (s : Setting) (notes : Bool) : Setting := { s with notesMismatches := notes }

theorem context_noting_alike (s : Setting) (notes : Bool) (depth : Nat) :
    (s.context depth).Alike ((s.noting notes).context depth) := by
  induction depth with
  | zero => exact ⟨rfl, rfl, fun _ _ => rfl⟩
  | succ depth ih =>
    refine ⟨rfl, rfl, fun f x => ?_⟩
    have hrun : (s.perform ⟨depth, f, x⟩).result =
        ((s.noting notes).perform ⟨depth, f, x⟩).result :=
      ih.run_result (s.script f x)
    rw [call_succ, call_succ]
    cases hd : ((s.noting notes).perform ⟨depth, f, x⟩).result with
    | error e => simp [Run.andThen, Run.record, hrun, hd]
    | ok a => simp [Run.andThen, Run.record, hrun, hd]

end Setting

/-- Whatever a call does, the three ways to ask agree on every value and raw pattern. Where
predicates follow scripts, and so may ask in any way themselves, each of the three ends the same
whether failed checks are noted or not. -/
theorem Context.entry_points_agree :
    (∀ (c : Context) (v raw : Value), c.WaysAgree v raw) ∧
      ∀ (s : Setting) (depth : Nat) (notes : Bool) (v raw : Value),
        (((s.noting notes).context depth).check v raw).result =
            ((s.context depth).check v raw).result ∧
          (((s.noting notes).context depth).accepts v raw).result =
            ((s.context depth).accepts v raw).result ∧
          (((s.noting notes).context depth).explain v raw).result =
            ((s.context depth).explain v raw).result := by
  refine ⟨waysAgree, fun s depth notes v raw => ?_⟩
  have halike := s.context_noting_alike notes depth
  have hcheck := halike.check_result v raw
  have haccepts := halike.accepts_result v raw
  have hexplain := halike.explain_result v raw
  exact ⟨hcheck.symm, haccepts.symm, hexplain.symm⟩

end Conformance
