import Conformance.Heap.Container
import Conformance.Heap.Conversion.Bytes

/-!
# Conversions to containers

What lists, sets and dictionaries are made of. Only whether the result is empty is kept.
-/

namespace Conformance
namespace Heap

/-! ### Lists and sets -/

/-- What an iteration over the value yields, if it can be iterated over and its items can be
held. -/
def gather (h : Heap) (v : Value) : Except Fault Elements :=
  match h.iterate? v with
  | none => .error (.conversion (.notIterable (h.fullTypeName v)))
  | some items =>
    if sizeLimit < items.length then .error (.conversion (.machineTooSmall .size))
    else if memoryLimit ≤ items.length then .error (.conversion .outOfMemory)
    else .ok items

/-- Whether the sequence that a value is converted to has any items. -/
def toSequence (h : Heap) (v : Value) : Except Fault Bool := do
  return (← h.gather v).length ≠ 0

/-- Whether the set that a value is converted to has any items. -/
def toSet (h : Heap) (v : Value) : Except Fault Bool := do
  match ← h.gather v with
  | .listed items => do
    items.forM h.checkHashable
    return !items.isEmpty
  | .progression _ _ count => return count ≠ 0

/-! ### Dictionaries -/

/-- Reads a pair by its length. -/
def sizedPair (h : Heap) (i : Nat) (item : Value) : Except Fault (Value × Value) :=
  match h.iterate? item with
  | none => .error (.pairNotSequence i)
  | some parts =>
    if sizeLimit < parts.length ∨ memoryLimit ≤ parts.length then do
      let _ ← h.gather item
      .error (.pairLength i parts.length)
    else match parts.take 3 with
      | [key, value] => .ok (key, value)
      | _ => .error (.pairLength i parts.length)

/-- Reads a pair by taking its items one after the other. -/
def unpackedPair (h : Heap) (_ : Nat) (item : Value) : Except Fault (Value × Value) :=
  match h.iterate? item with
  | none => .error (.conversion (.notIterable (h.fullTypeName item)))
  | some parts => match parts.take 3 with
    | [key, value] => .ok (key, value)
    | [] => .error (.conversion (.pairTooShort 0))
    | [_] => .error (.conversion (.pairTooShort 1))
    | _ => .error (.conversion .pairTooLong)

/-- Puts pairs into dictionary entries, one after the other. The place of a pair counts from `i`. -/
def collectPairs (h : Heap) (read : Nat → Value → Except Fault (Value × Value)) :
    Nat → List (Value × Value) → List Value → Except Fault (List (Value × Value))
  | _, entries, [] => .ok entries
  | i, entries, item :: rest => do
    let (key, value) ← read i item
    h.collectPairs read (i + 1) (← h.insertKey entries key value) rest

/-- A class has the methods of its instances, but they cannot be called on it: the fault of a class
that stands where a mapping is wanted. -/
def classAsMapping? : Value → Option ConversionFlaw
  | .classObject .dict | .classObject .defaultDict | .classObject .record =>
    some (.unboundKeys Class.dict.name)
  | .classObject .orderedDict => some (.unboundKeys Class.orderedDict.name)
  | .classObject .mapping => some (.missingArguments "Mapping.keys()" ["self"])
  | _ => none

/-- Whether the dictionary that a value is converted to has any entries. Pairs are read by
`read`. -/
def toDict (h : Heap) (read : Nat → Value → Except Fault (Value × Value)) (v : Value) :
    Except Fault Bool :=
  match h.entries? v, classAsMapping? v with
  | some entries, _ => .ok !entries.isEmpty
  | none, some flaw => .error (.conversion flaw)
  | none, none => match h.iterate? v with
    | none => .error (.conversion (.notIterable (h.fullTypeName v)))
    | some (.listed items) => do return !(← h.collectPairs read 0 [] items).isEmpty
    | some items => do return !(← h.collectPairs read 0 [] (items.take 1)).isEmpty

/-- Whether the dictionary with defaults that a value is converted to has any entries: the value
makes the defaults, and must be callable or null. -/
def toDefaultDict (h : Heap) (v : Value) : Except Fault Bool :=
  if v = .null ∨ h.isCallable v then .ok false else .error (.conversion .noFactory)

end Heap
end Conformance
