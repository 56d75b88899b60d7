import Conformance.Log.Logger
import Conformance.Proofs.Agreement

/-!
# Notes of checks

A question asks the library about a value in one of the ways. A question leads to calls of
predicates, and these ask further questions, which end before it does. `Setting.inquiries` lists
them all, each where it ends. The notes that a question leaves behind are those of the checks in
this list that end in a mismatch, one for each and in this order, whatever becomes of the mismatch.
-/

namespace Conformance

/-! ### Notes among the events -/

namespace Logger

theorem notes_append (first second : List Event) :
    notes (first ++ second) = notes first ++ notes second := by
  induction first with
  | nil => rfl
  | cons e rest ih =>
    cases e with
    | called f x => exact ih
    | noted n => exact congrArg (n :: ·) ih

theorem notes_flatMap {α : Type} (f : α → List Event) (xs : List α) :
    notes (xs.flatMap f) = xs.flatMap fun x => notes (f x) := by
  induction xs with
  | nil => rfl
  | cons x xs ih => rw [List.flatMap_cons, List.flatMap_cons, notes_append, ih]

theorem notes_map_noted (ns : List MismatchNote) : notes (ns.map .noted) = ns := by
  induction ns with
  | nil => rfl
  | cons n rest ih => exact congrArg (n :: ·) ih

end Logger

theorem Run.recover_events_eq_self {α : Type} {r : Run α} {handler : Mismatch → Run α}
    (h : ∀ m, (handler m).events = []) : (r.recover handler).events = r.events := by
  rcases hr : r.result with (m | f) | a <;> simp [recover, hr, h]

open Logger (notes notes_map_noted)

/-! ### Questions -/

structure Question where
  way : Way
  value : Value
  raw : Value

def Script.questions (c : Context) : Script → List Question
  | done _ => []
  | fail _ => []
  | ask way v raw next => ⟨way, v, raw⟩ :: match (c.ask v raw way).result with
    | .ok a => (next a).questions c
    | .error _ => []

/-- A question at a depth: how deep calls of predicates may nest in it. -/
structure Inquiry where
  depth : Nat
  question : Question

namespace Context

def answer (c : Context) (q : Question) : Run q.way.Answer := c.ask q.value q.raw q.way

/-- What is to be noted of the question: its mismatch and the kind of its pattern, if it is a check
that ends in a mismatch. -/
def failure? (c : Context) (q : Question) : Option MismatchNote :=
  match q.way, c.heap.toPattern q.raw, (c.check q.value q.raw).result with
  | .check, .ok p, .error (.mismatch m) => some ⟨m, p.kind⟩
  | _, _, _ => none

end Context

namespace Setting

/-- The questions that the question leads to and the question itself, in the order in which they
end. -/
def inquiries (s : Setting) : Nat → Question → List Inquiry
  | 0, q => [⟨0, q⟩]
  | depth + 1, q =>
    (match s.heap.toPattern q.raw with
      | .error _ => []
      | .ok p => (p.calls (s.context (depth + 1)) q.value).flatMap fun e =>
        ((s.script e.1 e.2).questions (s.context depth)).flatMap (s.inquiries depth)) ++
      [⟨depth + 1, q⟩]

def failure? (s : Setting) (i : Inquiry) : Option MismatchNote :=
  (s.context i.depth).failure? i.question

end Setting

/-! ### Notes of a question -/

namespace Context

variable {c : Context} {v raw : Value} {p : Pattern}

/-- What a check itself adds to the notes of the match. -/
def noted (c : Context) (q : Question) : List MismatchNote :=
  if c.notesMismatches then (c.failure? q).toList else []

/-- A check leaves the events of the match behind, and its own note after them. -/
theorem check_events (hp : c.heap.toPattern raw = .ok p) :
    (c.check v raw).events =
      (p.matcher c v "").events ++ (c.noted ⟨.check, v, raw⟩).map .noted := by
  have hresult := check_result (v := v) hp
  have hcheck : c.check v raw = (p.matcher c v "").recover fun m =>
      (do if c.notesMismatches then Run.record (.noted ⟨m, p.kind⟩)
          Run.fail (.mismatch m)) := by
    rw [check, hp, Run.lift_ok, Run.bind_eq, Run.andThen_ok]
  rcases hm : (p.matcher c v "").result with (m | f) | u
  · have hnoted : c.noted ⟨.check, v, raw⟩ = if c.notesMismatches then [⟨m, p.kind⟩] else [] := by
      simp only [noted, failure?, hp, hresult, hm, Option.toList]
    rw [hnoted, hcheck]
    cases c.notesMismatches <;>
      simp [Run.recover, hm, Run.bind_eq, Run.andThen, Run.record, Run.fail]
  · have hnoted : c.noted ⟨.check, v, raw⟩ = [] := by
      simp only [noted, failure?, hp, hresult, hm, Option.toList, ite_self]
    simp [hnoted, hcheck, Run.recover, hm]
  · have hnoted : c.noted ⟨.check, v, raw⟩ = [] := by
      simp only [noted, failure?, hp, hresult, hm, Option.toList, ite_self]
    simp [hnoted, hcheck, Run.recover, hm]

theorem answer_events (q : Question) :
    (c.answer q).events = match q.way with
      | .check => (c.check q.value q.raw).events
      | _ => (c.matchAt q.value q.raw "").events := by
  obtain ⟨way, v, raw⟩ := q
  cases way with
  | check =>
    rw [answer, ask, Run.recover_events_eq_self fun _ => rfl,
      Run.andThen_events_eq_self fun _ => rfl]
  | accepts =>
    rw [answer, ask, accepts, Run.recover_events_eq_self fun _ => rfl, Run.bind_eq,
      Run.andThen_events_eq_self fun _ => rfl]
  | explain =>
    rw [answer, ask, explain, Run.recover_events_eq_self fun _ => rfl, Run.bind_eq,
      Run.andThen_events_eq_self fun _ => rfl]

theorem answer_of_error {q : Question} {f : Fault} (hf : c.heap.toPattern q.raw = .error f) :
    notes (c.answer q).events = [] ∧ c.noted q = [] := by
  obtain ⟨way, v, raw⟩ := q
  refine ⟨?_, ?_⟩
  · rw [answer_events]
    cases way <;> simp only [check_of_error hf, matchAt_of_error hf] <;> rfl
  · cases way <;> simp [noted, failure?, hf]

theorem answer_notes {q : Question} (hp : c.heap.toPattern q.raw = .ok p) :
    notes (c.answer q).events = notes (p.matcher c q.value "").events ++ c.noted q := by
  obtain ⟨way, v, raw⟩ := q
  rw [answer_events]
  cases way with
  | check => simp only [check_events hp, Logger.notes_append, notes_map_noted]
  | _ => simp [matchAt_eq hp, noted, failure?]

end Context

theorem Script.run_notes (c : Context) (script : Script) :
    notes (script.run c).events =
      (script.questions c).flatMap fun q => notes (c.answer q).events := by
  induction script with
  | done answer => rfl
  | fail e => rfl
  | ask way v raw next ih =>
    rw [run, questions, List.flatMap_cons, Context.answer]
    cases hr : (c.ask v raw way).result with
    | error e =>
      rw [Run.andThen_events_of_error hr]
      exact (List.append_nil _).symm
    | ok a => rw [Run.andThen_events_of_ok hr, Logger.notes_append, ih]

namespace Setting

variable {s : Setting}

theorem call_notes (depth : Nat) (e : Value × Value) :
    notes ((s.context (depth + 1)).call e.1 e.2).events =
      ((s.script e.1 e.2).questions (s.context depth)).flatMap fun q =>
        notes ((s.context depth).answer q).events := by
  rw [call_succ, Run.andThen_events_of_ok rfl, Logger.notes_append, perform, Script.run_notes]
  rfl

theorem matcher_notes (c : Context) (p : Pattern) (v : Value) :
    notes (p.matcher c v "").events =
      (p.calls c v).flatMap fun e => notes (c.call e.1 e.2).events := by
  rw [Pattern.matcher_events_eq_calls, Logger.notes_flatMap]

/-- A question leaves the notes of the questions that it leads to behind, and its own one, in the
order in which they end. -/
theorem answer_notes_eq_flatMap (depth : Nat) (q : Question) :
    notes ((s.context depth).answer q).events =
      (s.inquiries depth q).flatMap fun i => (s.context i.depth).noted i.question := by
  -- the questions of a predicate are asked one level down
  induction depth generalizing q with
  | zero =>
    rw [inquiries, List.flatMap_singleton]
    cases hp : s.heap.toPattern q.raw with
    | error f =>
      obtain ⟨hnotes, hnoted⟩ := Context.answer_of_error (c := s.context 0) hp
      rw [hnotes, hnoted]
    | ok p =>
      have hnone : ∀ e ∈ p.calls (s.context 0) q.value,
          notes ((s.context 0).call e.1 e.2).events = [] := fun _ _ => rfl
      rw [Context.answer_notes hp, matcher_notes, List.flatMap_eq_nil_iff.mpr hnone,
        List.nil_append]
  | succ depth ih =>
    rw [inquiries, List.flatMap_append, List.flatMap_singleton]
    cases hp : s.heap.toPattern q.raw with
    | error f =>
      obtain ⟨hnotes, hnoted⟩ := Context.answer_of_error (c := s.context (depth + 1)) hp
      rw [hnotes, hnoted]
      rfl
    | ok p =>
      have hcalls : ∀ e : Value × Value, notes ((s.context (depth + 1)).call e.1 e.2).events =
          (((s.script e.1 e.2).questions (s.context depth)).flatMap (s.inquiries depth)).flatMap
            fun i => (s.context i.depth).noted i.question := by
        intro e
        rw [call_notes, List.flatMap_assoc]
        exact List.flatMap_congr fun q _ => ih q
      rw [Context.answer_notes hp, matcher_notes, List.flatMap_assoc]
      simp only [hcalls]

/-- What a question leaves noted is what there is to note of the questions that it leads to and of
itself, in the order in which they end. -/
theorem answer_notes (s : Setting) (depth : Nat) (q : Question) :
    notes ((s.context depth).answer q).events =
      if s.notesMismatches then (s.inquiries depth q).filterMap s.failure? else [] := by
  rw [answer_notes_eq_flatMap]
  cases hs : s.notesMismatches with
  | false =>
    have hnone : ∀ i ∈ s.inquiries depth q, (s.context i.depth).noted i.question = [] := by
      intro i _
      rw [Context.noted, context, hs]
      rfl
    rw [List.flatMap_eq_nil_iff.mpr hnone]
    rfl
  | true =>
    have hsome : ∀ i, (s.context i.depth).noted i.question = (s.failure? i).toList := by
      intro i
      rw [Context.noted, failure?, context, hs]
      rfl
    simp only [hsome, List.filterMap_eq_flatMap_toList, if_true]

end Setting
end Conformance
