import Conformance.Proofs.EntryPoint
import Conformance.Proofs.MatcherForm
import Mathlib.Tactic.ByContra

/-!
# Relocation

A match that starts at a path ends as the match that starts at the root does, with the path put in
front of the path of a mismatch. So it makes no difference whether a path is extended on the way
down or put in front on the way up.
-/

namespace Conformance

/-! ### Chains of paths -/

namespace Path

def separator (tail : String) : String := if tail.toList.head? = some '[' then "" else "."

theorem concat_of_ne_empty {base tail : String} (hb : base ≠ "") (ht : tail ≠ "") :
    concat base tail = base ++ (separator tail ++ tail) := by
  simp only [concat, separator, hb, ht, if_false]
  split
  · rw [String.empty_append]
  · rw [String.append_assoc]

theorem append_ne_empty {s t : String} (hs : s ≠ "") : s ++ t ≠ "" := by
  intro h
  exact hs (String.append_eq_empty_iff.mp h).1

theorem concat_ne_empty {base tail : String} (hb : base ≠ "") : concat base tail ≠ "" := by
  by_cases ht : tail = ""
  · rw [ht, concat_empty_right]
    exact hb
  · rw [concat_of_ne_empty hb ht]
    exact append_ne_empty hb

theorem separator_append {s t : String} (hs : s ≠ "") : separator (s ++ t) = separator s := by
  cases hl : s.toList with
  | nil => exact absurd (String.toList_eq_nil_iff.mp hl) hs
  | cons c rest =>
    simp only [separator, String.toList_append, hl, List.cons_append, List.head?_cons]

theorem separator_concat {base tail : String} (hb : base ≠ "") :
    separator (concat base tail) = separator base := by
  by_cases ht : tail = ""
  · rw [ht, concat_empty_right]
  · rw [concat_of_ne_empty hb ht, separator_append hb]

theorem concat_assoc (r s t : String) : concat (concat r s) t = concat r (concat s t) := by
  by_cases hr : r = ""
  · rw [hr, concat_empty_left, concat_empty_left]
  by_cases hs : s = ""
  · rw [hs, concat_empty_left, concat_empty_right]
  by_cases ht : t = ""
  · rw [ht, concat_empty_right, concat_empty_right]
  calc concat (concat r s) t
      = concat r s ++ (separator t ++ t) := concat_of_ne_empty (concat_ne_empty hr) ht
    _ = r ++ (separator s ++ s) ++ (separator t ++ t) := by rw [concat_of_ne_empty hr hs]
    _ = r ++ (separator s ++ (s ++ (separator t ++ t))) := by simp only [String.append_assoc]
    _ = r ++ (separator (concat s t) ++ concat s t) := by
      rw [separator_concat hs, concat_of_ne_empty hs ht]
    _ = concat r (concat s t) := (concat_of_ne_empty hr (concat_ne_empty hs)).symm

theorem separated_ne_empty {tail : String} (ht : tail ≠ "") : separator tail ++ tail ≠ "" :=
  fun h => ht (String.append_eq_empty_iff.mp h).2

/-- A path that begins with a bracket cannot be confused with one that a point precedes. -/
theorem separated_injective {s t : String} (h : separator s ++ s = separator t ++ t) : s = t := by
  have hl := congrArg String.toList h
  simp only [separator, String.toList_append] at hl
  split at hl <;> split at hl <;> rename_i hs ht
  · exact String.toList_injective hl
  · have hpoint : s.toList = '.' :: t.toList := hl
    rw [hpoint] at hs
    exact absurd (Option.some.inj hs) (by decide)
  · have hpoint : '.' :: s.toList = t.toList := hl
    rw [← hpoint] at ht
    exact absurd (Option.some.inj ht) (by decide)
  · exact String.toList_injective (List.cons.inj hl).2

theorem concat_eq_base_iff {base tail : String} (hb : base ≠ "") :
    concat base tail = base ↔ tail = "" := by
  constructor
  · intro h
    by_contra ht
    rw [concat_of_ne_empty hb ht] at h
    have hnil : separator tail ++ tail = "" := by
      apply (String.append_right_inj base).mp
      rw [h, String.append_empty]
    exact separated_ne_empty ht hnil
  · intro ht
    rw [ht, concat_empty_right]

theorem concat_injective (base : String) {s t : String} (h : concat base s = concat base t) :
    s = t := by
  by_cases hb : base = ""
  · rwa [hb, concat_empty_left, concat_empty_left] at h
  by_cases hs : s = ""
  · rw [hs, concat_empty_right] at h
    rw [hs, (concat_eq_base_iff hb).mp h.symm]
  by_cases ht : t = ""
  · rw [ht, concat_empty_right] at h
    rw [ht, (concat_eq_base_iff hb).mp h]
  rw [concat_of_ne_empty hb hs, concat_of_ne_empty hb ht] at h
  exact separated_injective ((String.append_right_inj base).mp h)

theorem lift_join_andThen {α : Type} (h : Heap) (path : String) (key : Value)
    (next : String → Run α) :
    (Run.lift (join h path key)).andThen next =
      (Run.lift (keyAccessor h key)).andThen fun accessor => next (concat path accessor) := by
  rw [join]
  cases keyAccessor h key <;> rfl

end Path

/-! ### Moved runs -/

/-- The failure that is reported at a path instead of the root. -/
def Failure.relocate (path : String) : Failure → Failure
  | mismatch m => mismatch ⟨m.reason, Path.concat path m.path⟩
  | fault f => fault f

namespace Run

variable {α β : Type} (path : String)

/-- The run that reports at a path instead of the root. -/
def relocate (r : Run α) : Run α := ⟨r.events, r.result.mapError (Failure.relocate path)⟩

@[simp] theorem relocate_ok (a : α) : (ok a).relocate path = ok a := rfl

@[simp] theorem relocate_mismatch (reason : Reason) (tail : String) :
    (mismatch reason tail : Run α).relocate path = mismatch reason (Path.concat path tail) := rfl

@[simp] theorem relocate_lift (x : Except Fault α) : (lift x).relocate path = lift x := by
  cases x <;> rfl

theorem relocate_flaw (flaw? : Option Reason) :
    (flaw flaw? "").relocate path = flaw flaw? path := by
  cases flaw? with
  | none => rfl
  | some reason => rw [flaw_some, flaw_some, relocate_mismatch, Path.concat_empty_right]

theorem relocate_andThen (r : Run α) (next : α → Run β) :
    (r.andThen next).relocate path =
      (r.relocate path).andThen fun a => (next a).relocate path := by
  rcases h : r.result with e | a <;> simp [relocate, andThen, h, Except.mapError]

theorem relocate_each (f : α → Run Unit) (xs : List α) :
    (each f xs).relocate path = each (fun x => (f x).relocate path) xs := by
  induction xs with
  | nil => rfl
  | cons x xs ih => rw [each_cons, each_cons, relocate_andThen, ih]

/-- A recovery that does not look at the mismatch recovers wherever the mismatch is reported. -/
theorem relocate_recover (r next : Run α) :
    (r.recover fun _ => next).relocate path =
      (r.relocate path).recover fun _ => next.relocate path := by
  rcases h : r.result with (m | f) | a <;>
    simp [relocate, recover, h, Except.mapError, Failure.relocate]

theorem relocate_relocate (base : String) (r : Run α) :
    (r.relocate path).relocate base = r.relocate (Path.concat base path) := by
  rcases h : r.result with (m | f) | a <;>
    simp [relocate, h, Except.mapError, Failure.relocate, Path.concat_assoc]

/-- To report a mismatch anew under a path is to move the run there. -/
theorem recover_mismatch_eq_relocate (r : Run α) :
    (r.recover fun m => mismatch m.reason (Path.concat path m.path)) = r.relocate path := by
  obtain ⟨events, result⟩ := r
  rcases result with (m | f) | a <;>
    simp [relocate, recover, Except.mapError, Failure.relocate, mismatch, fail]

/-- The second run ends as the first does, with the path in front of the path of a mismatch. -/
structure EndsUnder (r s : Run Unit) : Prop where
  success : s.result = .ok () ↔ r.result = .ok ()
  mismatch : ∀ reason tail, s.result = .error (.mismatch ⟨reason, Path.concat path tail⟩) ↔
    r.result = .error (.mismatch ⟨reason, tail⟩)
  fault : ∀ f, s.result = .error (.fault f) ↔ r.result = .error (.fault f)

theorem relocate_result_ok_iff {path : String} {r : Run α} {a : α} :
    (r.relocate path).result = .ok a ↔ r.result = .ok a := by
  rcases h : r.result with e | b <;> simp [relocate, h, Except.mapError]

theorem relocate_result_mismatch_iff {path : String} {r : Run α} {m : Mismatch} :
    (r.relocate path).result = .error (.mismatch m) ↔
      ∃ tail, r.result = .error (.mismatch ⟨m.reason, tail⟩) ∧ m.path = Path.concat path tail := by
  obtain ⟨reason, full⟩ := m
  rcases h : r.result with (⟨reason', tail⟩ | f) | b
  · simp only [relocate, h, Except.mapError, Failure.relocate, Except.error.injEq,
      Failure.mismatch.injEq, Mismatch.mk.injEq]
    constructor
    · rintro ⟨hr, hp⟩
      exact ⟨tail, ⟨hr, rfl⟩, hp.symm⟩
    · rintro ⟨_, ⟨hr, rfl⟩, hp⟩
      exact ⟨hr, hp.symm⟩
  · simp [relocate, h, Except.mapError, Failure.relocate]
  · simp [relocate, h, Except.mapError]

theorem relocate_result_fault_iff {path : String} {r : Run α} {f : Fault} :
    (r.relocate path).result = .error (.fault f) ↔ r.result = .error (.fault f) := by
  rcases h : r.result with (m | f') | b <;>
    simp [relocate, h, Except.mapError, Failure.relocate]

theorem endsUnder_relocate (r : Run Unit) : EndsUnder path r (r.relocate path) where
  success := relocate_result_ok_iff
  mismatch reason tail := by
    rw [relocate_result_mismatch_iff]
    constructor
    · rintro ⟨tail', hr, hp⟩
      rwa [Path.concat_injective path hp]
    · intro hr
      exact ⟨tail, hr, rfl⟩
  fault _ := relocate_result_fault_iff

end Run

/-! ### Moved matches -/

namespace Pattern

theorem visit_run_relocate {c : Context} (b : Visit) (path : String)
    (ih : ∀ q, b.demand = .conform q →
      ∀ path, q.matcher c b.part path = (q.matcher c b.part "").relocate path) :
    b.run c path = (b.run c "").relocate path := by
  cases hd : b.demand with
  | nothing => simp only [Visit.run, hd, Run.relocate_ok]
  | absence =>
    simp only [Visit.run, hd, Path.lift_join_andThen, Run.relocate_andThen, Run.relocate_lift,
      Run.relocate_mismatch, Path.concat_empty_left]
  | conform q =>
    simp only [Visit.run, hd, Path.lift_join_andThen, Run.relocate_andThen, Run.relocate_lift,
      Path.concat_empty_left]
    congr 1
    funext accessor
    -- both sides pass through the matcher at the root
    rw [ih q hd, ih q hd accessor, Run.relocate_relocate]

/-- A match at a path is the match at the root, moved there. -/
theorem matcher_relocate (c : Context) (p : Pattern) (v : Value) (path : String) :
    p.matcher c v path = (p.matcher c v "").relocate path := by
  induction p using formInduction generalizing v path with
  | leaf p hp =>
    rw [leaf_matcher c v path hp, leaf_matcher c v "" hp, Run.relocate_andThen, Run.relocate_lift]
    simp only [Run.relocate_flaw]
  | container p hp ih =>
    rw [container_matcher c v path hp, container_matcher c v "" hp]
    simp only [Run.relocate_andThen, Run.relocate_flaw, Run.relocate_each]
    have hvisits : Run.each (Visit.run c path) (p.visits c.heap v) =
        Run.each (fun b => (b.run c "").relocate path) (p.visits c.heap v) :=
      Run.each_congr fun b hb =>
        visit_run_relocate b path fun q hq => ih q (mem_parts_of_mem_visits hb hq) b.part
    rw [hvisits]
  | wrap w p ih =>
    rw [wrap_matcher, wrap_matcher, ih v path]
    split <;> rfl
  | oneOf choices ih =>
    induction choices with
    | nil =>
      rw [oneOf_nil_matcher, oneOf_nil_matcher, Run.relocate_mismatch, Path.concat_empty_right]
    | cons p rest ihrest =>
      obtain ⟨hp, hrest⟩ := List.forall_mem_cons.mp ih
      rw [oneOf_cons_matcher, oneOf_cons_matcher, Run.relocate_recover, hp v path, ihrest hrest]
  | satisfies f =>
    -- the one matcher that puts its path in front on the way up
    have hm : ∀ path, (satisfies f).matcher c v path =
        ((c.call f v).relocate path).andThen fun answer =>
          Run.require (c.heap.isTruthy answer) .rejected path := fun path => by
      simp only [matcher, Matcher.satisfies, Run.recover_mismatch_eq_relocate, Run.bind_eq]
    rw [hm, hm, Run.relocate_andThen, Run.relocate_relocate, Path.concat_empty_right]
    simp only [require_eq_flaw, Run.relocate_flaw]

end Pattern
end Conformance
