import Conformance.Proofs.Outcome
import Conformance.Match.Check

/-!
# Entry points

The outcomes of the ways to ask for a verdict, in terms of the matcher of the pattern that a raw
value stands for. A check only adds a note to the mismatch that it passes on.
-/

namespace Conformance.Context

variable {c : Context} {v raw : Value} {p : Pattern} {path : String}

theorem matchAt_eq (hp : c.heap.toPattern raw = .ok p) :
    c.matchAt v raw path = p.matcher c v path := by
  simp only [matchAt, hp, Run.lift_ok, Run.bind_eq, Run.andThen_ok]

theorem check_result (hp : c.heap.toPattern raw = .ok p) :
    (c.check v raw).result = (p.matcher c v "").result := by
  simp only [check, hp, Run.lift_ok, Run.bind_eq, Run.andThen_ok]
  rcases h : (p.matcher c v "").result with (m | f) | u
  · cases c.notesMismatches <;> simp [Run.recover, h, Run.andThen, Run.record]
  · simp [Run.recover, h]
  · simp [Run.recover, h]

theorem accepts_result (hp : c.heap.toPattern raw = .ok p) :
    (c.accepts v raw).result =
      match (p.matcher c v "").result with
      | .ok _ => .ok true
      | .error (.mismatch _) => .ok false
      | .error (.fault f) => .error (.fault f) := by
  rw [accepts, matchAt_eq hp]
  rcases h : (p.matcher c v "").result with (m | f) | u <;>
    simp [Run.recover, Run.bind_eq, Run.andThen, h, Run.pure_eq]

theorem accepts_true_iff (hp : c.heap.toPattern raw = .ok p) :
    (c.accepts v raw).result = .ok true ↔ (p.matcher c v "").result = .ok () := by
  rw [accepts_result hp]
  rcases (p.matcher c v "").result with (m | f) | u <;> simp

theorem accepts_false_iff (hp : c.heap.toPattern raw = .ok p) :
    (c.accepts v raw).result = .ok false ↔ (p.matcher c v "").Diverges := by
  rw [accepts_result hp, Run.Diverges]
  rcases (p.matcher c v "").result with (m | f) | u <;> simp

theorem explain_result (hp : c.heap.toPattern raw = .ok p) :
    (c.explain v raw).result =
      match (p.matcher c v "").result with
      | .ok _ => .ok (.conforming c.coreVersion)
      | .error (.mismatch m) => .ok (.diverging c.coreVersion m)
      | .error (.fault f) => .error (.fault f) := by
  rw [explain, matchAt_eq hp]
  rcases h : (p.matcher c v "").result with (m | f) | u <;>
    simp [Run.recover, Run.bind_eq, Run.andThen, h, Run.pure_eq]

end Conformance.Context
