import Conformance.Pattern.Basic

/-!
# Heaps

A heap holds the objects that references point to: sequences and dictionaries with their parts, byte
strings that can be changed, instances, predicates, and patterns that are used as values. An address
that was never given out reads as a bare object.
-/

namespace Conformance

inductive SequenceKind where
  | list
  /-- A list of a derived class. -/
  | derivedList
  /-- A list of a derived class whose instances can be called. -/
  | callableList
  | tuple
  /-- A tuple of two named items. -/
  | point
  | deque
  /-- An object that wraps a list without being one. -/
  | userList
  | set
  | frozenset
deriving DecidableEq, Repr

inductive DictKind where
  | plain
  /-- A dictionary of a derived class. -/
  | record
  /-- A dictionary of a derived class whose instances can be called. -/
  | callableRecord
  | ordered
  /-- A dictionary that gives an empty list for a missing key. -/
  | defaulting
  /-- A dictionary of the same type that gives nothing. -/
  | defaultless
  /-- An object that wraps a dictionary without being one. -/
  | user
  /-- A read-only view of a dictionary. -/
  | proxy
deriving DecidableEq, Repr

inductive ExceptionKind where
  | valueError | typeError | keyError | runtimeError | patternError
deriving DecidableEq, Repr

inductive Predicate where
  /-- Returns the value. -/
  | truthy
  /-- Returns a fixed value. -/
  | const (answer : Value)
  /-- Checks the value against a pattern and returns true. -/
  | check (pattern : Value)
  /-- Checks the value against a pattern and returns null. -/
  | checkNone (pattern : Value)
  /-- Returns the verdict on the value. -/
  | accepts (pattern : Value)
  /-- Returns the verdict of a report on the value. -/
  | explain (pattern : Value)
  /-- Declares a mismatch. -/
  | mismatch (reason path : String)
  | raise (kind : ExceptionKind) (message : String)
deriving DecidableEq

def Predicate.name : Predicate → String
  | truthy => "truthy"
  | const _ => "const"
  | check _ => "check"
  | checkNone _ => "check_none"
  | accepts _ => "matches"
  | explain _ => "explain"
  | mismatch _ _ => "mismatch"
  | raise _ _ => "raise"

/-- Which objects a pattern and its parts are. A pattern that was built as a part of another one is
no object. -/
inductive Provenance where
  | node (object : Option Address) (parts : List Provenance)

namespace Provenance

def fresh : Provenance := .node none []

def object? : Provenance → Option Address
  | .node object _ => object

def parts : Provenance → List Provenance
  | .node _ parts => parts

def first (parts : List Provenance) : Provenance := parts.headD fresh

end Provenance

inductive Cell where
  | sequence (kind : SequenceKind) (items : List Value)
  /-- A dictionary with its entries in insertion order. -/
  | dict (kind : DictKind) (entries : List (Value × Value))
  /-- A byte string that can be changed. -/
  | byteArray (content : List UInt8)
  /-- An instance without parts. -/
  | inst (c : Class)
  /-- A pattern, with the provenances of its parts. -/
  | pattern (p : Pattern) (parts : List Provenance)
  | predicate (p : Predicate)

/-- The objects that references point to. -/
structure Heap where
  cells : Array Cell

namespace Heap

def empty : Heap := ⟨#[]⟩

def cell (h : Heap) (a : Address) : Cell := h.cells[a]?.getD (.inst .object)

def alloc (h : Heap) (c : Cell) : Heap × Value :=
  let a := h.cells.size
  (⟨h.cells.push c⟩, .ref a)

/-- Replaces the object at an address that is in use. -/
def update (h : Heap) (a : Address) (c : Cell) : Heap := ⟨h.cells.setIfInBounds a c⟩

theorem cell_alloc_self (h : Heap) (c : Cell) : (h.alloc c).1.cell h.cells.size = c := by
  simp [cell, alloc]

theorem cell_alloc_of_lt {h : Heap} {c : Cell} {a : Address} (ha : a < h.cells.size) :
    (h.alloc c).1.cell a = h.cell a := by
  simp [cell, alloc, Array.getElem?_push, Nat.ne_of_lt ha]

theorem cell_update_of_ne {h : Heap} {a b : Address} {c : Cell} (hab : b ≠ a) :
    (h.update a c).cell b = h.cell b := by
  simp [cell, update, Ne.symm hab]

end Heap
end Conformance
