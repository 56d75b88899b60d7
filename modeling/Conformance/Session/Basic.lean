import Conformance.Heap.Change
import Conformance.Heap.Instance
import Conformance.Log.Logger
import Conformance.Match.Check

/-!
# Sessions

A session owns the objects that a client made, the names it gave to some of them, the settings and
the logger. Objects are made one after another; values that are no numbers and foreign patterns get
a fresh tag each.
-/

namespace Conformance

structure Session where
  heap : Heap := .empty
  names : List (String × Value) := []
  settings : Settings := {}
  logger : Logger := {}
  /-- The next fresh tag. -/
  tag : Nat := 0

namespace Session

def alloc : Session → Cell → Value × Session
  | ⟨heap, names, settings, logger, tag⟩, c =>
    let (heap, v) := heap.alloc c
    (v, ⟨heap, names, settings, logger, tag⟩)

/-- A tag that was not handed out before. -/
def freshTag (s : Session) : Nat × Session := (s.tag, { s with tag := s.tag + 1 })

def instantiate (s : Session) (c : Class) : Except Fault Value × Session :=
  let (tag, s) := s.freshTag
  match s.heap.instantiate tag c with
  | .ok (heap, v) => (.ok v, { s with heap })
  | .error f => (.error f, s)

/-- Gives a name to a value. An earlier value of that name is hidden. -/
def bind (s : Session) (name : String) (v : Value) : Session :=
  { s with names := (name, v) :: s.names }

def lookup? (s : Session) (name : String) : Option Value :=
  (s.names.find? (·.1 = name)).map (·.2)

def lookup (s : Session) (name : String) : Except Fault Value :=
  match s.lookup? name with
  | some v => .ok v
  | none => .error (.keyMissing (Text.display name))

theorem lookup?_bind (s : Session) (name : String) (v : Value) :
    (s.bind name v).lookup? name = some v := by
  simp [lookup?, bind]

theorem lookup?_bind_of_ne (s : Session) {m n : String} (v : Value) (hmn : m ≠ n) :
    (s.bind m v).lookup? n = s.lookup? n := by
  simp [lookup?, bind, hmn]

def context (s : Session) : Context :=
  s.heap.context s.settings.logMismatches s.settings.coreVersion

/-- Wraps a value `n` times, in lists or in dictionaries with one key. -/
def nest (key : Option String) : Nat → Value × Session → Value × Session
  | 0, state => state
  | n + 1, (v, s) =>
    let c := match key with
      | none => Cell.sequence .list [v]
      | some k => Cell.dict .plain [(.str k, v)]
    nest key n (s.alloc c)

end Session
end Conformance
