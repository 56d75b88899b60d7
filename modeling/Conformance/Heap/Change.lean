import Conformance.Heap.Container
import Conformance.Heap.Conversion.Bytes

/-!
# Changes in place

Items of lists, of double-ended queues and of byte arrays can be set, added and removed, and so can
entries of dictionaries. All other objects refuse. How the refusal is worded depends on whether the
type of the object has the methods of a sequence.
-/

namespace Conformance

/-! ### Indices -/

/-- The place among `length` items that an index stands for; a negative index counts from the
end. -/
def position? (length : Nat) (index : Int) : Option Nat :=
  let i := if index < 0 then index + length else index
  if 0 ≤ i ∧ i < length then some i.toNat else none

theorem position?_lt {length : Nat} {index : Int} {i : Nat} (h : position? length index = some i) :
    i < length := by
  simp only [position?, Option.ite_none_right_eq_some] at h
  obtain ⟨hrange, hi⟩ := h
  have hi := Option.some.inj hi
  omega

inductive Row where
  | list | deque | byteArray
deriving DecidableEq, Repr

namespace Row

def ofKind? : SequenceKind → Option Row
  | .list | .derivedList | .callableList | .userList => some list
  | .deque => some deque
  | _ => none

/-- How faults call an index that no item has. -/
def owner : Row → String
  | list => "list assignment"
  | deque => "deque"
  | byteArray => "bytearray"

def keyFault (typeName : String) : Row → Fault
  | list => .indexNotInteger "list" typeName
  | deque => .placeNotInteger typeName
  | byteArray => .indexNotInteger "bytearray" typeName

def place (r : Row) (length : Nat) (index : Int) : Except Fault Nat :=
  match position? length index with
  | some i => .ok i
  | none => .error (.indexOutOfRange r.owner)

end Row

namespace Heap

def index? (h : Heap) (key : Value) : Option (Except Fault Int) :=
  key.index?.map fun n => if fitsWord n then .ok n else .error (.indexTooGreat (h.fullTypeName key))

def index (h : Heap) (r : Row) (key : Value) : Except Fault Int :=
  (h.index? key).getD (.error (r.keyFault (h.fullTypeName key)))

/-! ### Refusals -/

/-- Has the type of the value the methods of a sequence, whether they do anything or not? -/
def hasSequenceMethods (h : Heap) : Value → Bool
  | .null | .bool _ | .int _ | .float _ | .complex _ _ | .decimal _ | .datetime _ | .date _
  | .union _ _ | .listAlias _ | .function _ => false
  | .classObject c => c.isAbstract
  | .ref a => match h.cell a with
    | .inst .object | .inst .exception | .inst .valueError | .predicate _ => false
    | _ => true
  | _ => true

/-- The fault of a change that an object does not allow, which is worded in one way for an index
into an object with the methods of a sequence, and in another way for all else. -/
def refusal (h : Heap) (object key : Value) (atIndex other : String → Fault) : Fault :=
  let name := h.fullTypeName object
  match object, if h.hasSequenceMethods object then h.index? key else none with
  | .bytes .memoryview _, _ => .readOnlyMemory
  | _, some (.ok _) => atIndex name
  | _, some (.error f) => f
  | _, none => other name

def assignmentRefusal (h : Heap) (object key : Value) : Fault :=
  h.refusal object key .noItemAssignment .noItemAssignment

def deletionRefusal (h : Heap) (object key : Value) : Fault :=
  h.refusal object key .noIndexDeletion .noItemDeletion

/-- The class from which a class has its method that adds an item. -/
def appendOwner? : Value → Option Class
  | .classObject .list | .classObject .listSub | .listAlias _ => some .list
  | .classObject .deque => some .deque
  | .classObject .bytearray => some .bytearray
  | _ => none

/-- The fault of adding an item to an object that does not allow it. The method of a class wants an
instance of the class. -/
def appendRefusal (h : Heap) (object value : Value) : Fault :=
  match appendOwner? object, object with
  | some owner, _ =>
    if h.isInstance value owner then .methodArgumentMissing (owner.name ++ ".append")
    else .methodMisapplied "append" owner.qualifiedName (h.fullTypeName value)
  | none, .classObject c => .noClassAttribute c.ownerName "append"
  | none, object => .noAttribute (h.fullTypeName object) "append"

/-! ### Changes -/

def setItem (h : Heap) (object key value : Value) : Except Fault Heap :=
  let refused : Except Fault Heap := .error (h.assignmentRefusal object key)
  match object with
  | .ref a => match h.cell a with
    | .dict .proxy _ => refused
    | .dict k entries => do return h.update a (.dict k (← h.insertKey entries key value))
    | .sequence k items => match Row.ofKind? k with
      | some r => do
        let i ← r.place items.length (← h.index r key)
        return h.update a (.sequence k (items.set i value))
      | none => refused
    | .byteArray content => do
      let n ← h.index .byteArray key
      let b ← h.byte .bytearray value
      let i ← Row.byteArray.place content.length n
      return h.update a (.byteArray (content.set i b))
    | _ => refused
  | _ => refused

def appendItem (h : Heap) (object value : Value) : Except Fault Heap :=
  let refused : Except Fault Heap := .error (h.appendRefusal object value)
  match object with
  | .ref a => match h.cell a with
    | .sequence k items => match Row.ofKind? k with
      | some _ => .ok (h.update a (.sequence k (items ++ [value])))
      | none => refused
    | .byteArray content => do
      return h.update a (.byteArray (content ++ [← h.byte .bytearray value]))
    | _ => refused
  | _ => refused

def dropItem (h : Heap) (object key : Value) : Except Fault Heap :=
  let refused : Except Fault Heap := .error (h.deletionRefusal object key)
  match object with
  | .ref a => match h.cell a with
    | .dict .proxy _ => refused
    | .dict k entries => do
      h.checkHashable key
      match ← eraseEntry? h.equalPart key entries with
      | some rest => return h.update a (.dict k rest)
      | none => .error (.keyMissing (← h.display key))
    | .sequence k items => match Row.ofKind? k with
      | some r => do
        let i ← r.place items.length (← h.index r key)
        return h.update a (.sequence k (items.eraseIdx i))
      | none => refused
    | .byteArray content => do
      let i ← Row.byteArray.place content.length (← h.index .byteArray key)
      return h.update a (.byteArray (content.eraseIdx i))
    | _ => refused
  | _ => refused

end Heap
end Conformance
