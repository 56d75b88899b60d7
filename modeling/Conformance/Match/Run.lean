import Conformance.Mismatch
import Conformance.Value.Elements

/-!
# Runs

A run ends with a result or a failure, and leaves a list of events behind: the calls of predicates
and the notes about failed checks, in the order in which they happened. A failure stops the run; the
events up to it remain. Only a mismatch can be recovered from, so a fault always reaches the end.
-/

namespace Conformance

structure MismatchNote where
  mismatch : Mismatch
  /-- The word for the variant of the pattern that was checked. -/
  patternKind : String
deriving DecidableEq

inductive Event where
  | called (predicate argument : Value)
  | noted (note : MismatchNote)
deriving DecidableEq

structure Run (α : Type) where
  events : List Event
  result : Except Failure α

namespace Run

variable {α β : Type}

def ok (a : α) : Run α := ⟨[], .ok a⟩

def fail (e : Failure) : Run α := ⟨[], .error e⟩

def mismatch (reason : Reason) (path : String) : Run α := fail (.mismatch ⟨reason, path⟩)

def fault (f : Fault) : Run α := fail (.fault f)

def record (e : Event) : Run Unit := ⟨[e], .ok ()⟩

def andThen (r : Run α) (next : α → Run β) : Run β :=
  match r.result with
  | .ok a => ⟨r.events ++ (next a).events, (next a).result⟩
  | .error e => ⟨r.events, .error e⟩

instance : Monad Run where
  pure := ok
  bind := andThen

/-- A computation without events. -/
def lift (x : Except Fault α) : Run α :=
  match x with
  | .ok a => ok a
  | .error f => fault f

/-- Continues after a mismatch. A fault is passed on. -/
def recover (r : Run α) (handler : Mismatch → Run α) : Run α :=
  match r.result with
  | .error (.mismatch m) => ⟨r.events ++ (handler m).events, (handler m).result⟩
  | _ => r

def require (condition : Bool) (reason : Reason) (path : String) : Run Unit :=
  if condition then ok () else mismatch reason path

/-! ### Laws -/

theorem andThen_ok (a : α) (next : α → Run β) : (ok a).andThen next = next a := by
  simp only [andThen, ok, List.nil_append]

theorem andThen_fail (e : Failure) (next : α → Run β) : (fail e).andThen next = fail e := rfl

theorem andThen_pure (r : Run α) : r.andThen ok = r := by
  obtain ⟨events, result⟩ := r
  cases result <;> simp [andThen, ok]

theorem andThen_assoc {γ : Type} (r : Run α) (f : α → Run β) (g : β → Run γ) :
    (r.andThen f).andThen g = r.andThen fun a => (f a).andThen g := by
  obtain ⟨events, result⟩ := r
  cases result with
  | error e => rfl
  | ok a =>
    simp only [andThen]
    split <;> simp [List.append_assoc]

theorem bind_eq (r : Run α) (next : α → Run β) : (r >>= next) = r.andThen next := rfl

theorem pure_eq (a : α) : (pure a : Run α) = ok a := rfl

instance : LawfulMonad Run :=
  LawfulMonad.mk' Run (fun r => andThen_pure r) (fun a f => andThen_ok a f)
    (fun r f g => andThen_assoc r f g)

/-! ### Sequences of runs -/

/-- Runs `f` on every item, after the events `done`. -/
def eachFrom (f : α → Run Unit) : List Event → List α → Run Unit
  | done, [] => ⟨done, .ok ()⟩
  | done, x :: xs =>
    match (f x).result with
    | .ok _ => eachFrom f (done ++ (f x).events) xs
    | .error e => ⟨done ++ (f x).events, .error e⟩

/-- Runs `f` on every item up to the first failure. -/
def each (f : α → Run Unit) (xs : List α) : Run Unit := eachFrom f [] xs

theorem eachFrom_eq (f : α → Run Unit) (done : List Event) (xs : List α) :
    eachFrom f done xs = ⟨done ++ (each f xs).events, (each f xs).result⟩ := by
  have key : ∀ (xs : List α) (a b : List Event),
      eachFrom f (a ++ b) xs = ⟨a ++ (eachFrom f b xs).events, (eachFrom f b xs).result⟩ := by
    intro xs
    induction xs with
    | nil => intro a b; rfl
    | cons x xs ih =>
      intro a b
      simp only [eachFrom]
      split
      · rw [List.append_assoc, ih]
      · simp only [List.append_assoc]
  have h := key xs done []
  rw [List.append_nil] at h
  exact h

theorem each_nil (f : α → Run Unit) : each f [] = ok () := rfl

theorem each_cons (f : α → Run Unit) (x : α) (xs : List α) :
    each f (x :: xs) = (f x).andThen fun _ => each f xs := by
  rcases h : (f x).result with e | a
  · simp only [each, eachFrom, andThen, h, List.nil_append]
  · simp only [each, eachFrom, andThen, h, List.nil_append]
    exact eachFrom_eq f (f x).events xs

/-! ### Elements -/

/-- Runs `f` on the integers of a progression from the place `index` on, `count` of them, after the
events `done`. -/
def eachTermFrom (f : Value → Nat → Run Unit) (start step : Int) :
    List Event → Nat → Nat → Run Unit
  | done, _, 0 => ⟨done, .ok ()⟩
  | done, index, count + 1 =>
    let r := f (Elements.term start step index) index
    match r.result with
    | .ok _ => eachTermFrom f start step (done ++ r.events) (index + 1) count
    | .error e => ⟨done ++ r.events, .error e⟩

/-- Runs `f` on every element and its place, up to the first failure. The integers of a range are
made one by one. -/
def eachElement (f : Value → Nat → Run Unit) : Elements → Run Unit
  | .listed items => each (fun item => f item.1 item.2) items.zipIdx
  | .progression start step count => eachTermFrom f start step [] 0 count

theorem eachTermFrom_eq (f : Value → Nat → Run Unit) (start step : Int) (done : List Event)
    (index count : Nat) :
    eachTermFrom f start step done index count =
      eachFrom (fun item => f item.1 item.2) done
        (((List.range' index count).map (Elements.term start step)).zipIdx index) := by
  induction count generalizing done index with
  | zero => rfl
  | succ count ih =>
    simp only [eachTermFrom, List.range'_succ, List.map_cons, List.zipIdx_cons, eachFrom]
    split
    · rename_i h
      rw [ih]
    · rename_i h
      rfl

/-- The elements of a range are walked like listed ones. -/
theorem eachElement_eq (f : Value → Nat → Run Unit) (e : Elements) :
    eachElement f e = each (fun item => f item.1 item.2) e.toList.zipIdx := by
  cases e with
  | listed items => rfl
  | progression start step count =>
    simp only [eachElement, eachTermFrom_eq, each, Elements.toList, List.range_eq_range']

end Run
end Conformance
