import Conformance.Heap.Basic
import Conformance.Value.Elements

/-!
# What values are

The type name of a value, the classes it belongs to, its category, whether it can be called, whether
it counts as true, and the items it holds. All of these look at one object only, except that a
dictionary or sequence hands out its parts.
-/

namespace Conformance

/-! ### Type names

A type that belongs to a module has a short name and a full one, which the module begins.
-/

def SequenceKind.typeName : SequenceKind → String
  | list => "list"
  | derivedList => "ListSub"
  | callableList => "CallList"
  | tuple => "tuple"
  | point => "Point"
  | deque => "deque"
  | userList => "UserList"
  | set => "set"
  | frozenset => "frozenset"

def SequenceKind.home : SequenceKind → String
  | deque => Class.deque.home
  | _ => ""

def DictKind.typeName : DictKind → String
  | plain => "dict"
  | record => "Record"
  | callableRecord => "CallRecord"
  | ordered => "OrderedDict"
  | defaulting | defaultless => "defaultdict"
  | user => "UserDict"
  | proxy => "mappingproxy"

def DictKind.home : DictKind → String
  | ordered => Class.orderedDict.home
  | defaulting | defaultless => Class.defaultDict.home
  | _ => ""

/-- Is the class abstract, so that its own type is not the usual one? -/
def Class.isAbstract : Class → Bool
  | sequence | mapping | callable | hashable | sized | number | integral => true
  | _ => false

def Cell.typeName : Cell → String
  | sequence k _ => k.typeName
  | dict k _ => k.typeName
  | byteArray _ => "bytearray"
  | inst c => c.name
  | pattern p _ => p.typeName
  | predicate _ => "function"

namespace Heap

def typeName (h : Heap) : Value → String
  | .undefined => "_UndefinedType"
  | .null => "NoneType"
  | .bool _ => "bool"
  | .int _ => "int"
  | .float _ => "float"
  | .str _ => "str"
  | .boxed (.str _) => "BoxedStr"
  | .boxed (.int _) => "BoxedInt"
  | .boxed (.float _) => "BoxedFloat"
  | .userStr _ => "UserString"
  | .range _ _ _ => "range"
  | .bytes .bytes _ => "bytes"
  | .bytes .memoryview _ => "memoryview"
  | .complex _ _ => "complex"
  | .decimal _ => "Decimal"
  | .datetime _ => "datetime"
  | .date _ => "date"
  | .regex _ => "Pattern"
  | .classObject c => if c.isAbstract then "ABCMeta" else "type"
  | .union _ _ => "UnionType"
  | .listAlias _ => "GenericAlias"
  | .function .noop => "function"
  | .function _ => "builtin_function_or_method"
  | .ref a => (h.cell a).typeName

def typeHome (h : Heap) : Value → String
  | .decimal _ => Class.decimal.home
  | .datetime _ => Class.datetime.home
  | .date _ => Class.date.home
  | .regex _ => Class.regex.home
  | .union _ _ | .listAlias _ => "types."
  | .ref a => match h.cell a with
    | .sequence k _ => k.home
    | .dict k _ => k.home
    | _ => ""
  | _ => ""

def fullTypeName (h : Heap) (v : Value) : String := h.typeHome v ++ h.typeName v

end Heap

/-! ### Classes -/

def SequenceKind.classes : SequenceKind → List Class
  | list => [.list, .sequence, .sized]
  | derivedList => [.list, .sequence, .sized, .listSub]
  | callableList => [.list, .sequence, .callable, .sized]
  | tuple => [.tuple, .sequence, .hashable, .sized]
  | point => [.tuple, .sequence, .hashable, .sized, .point]
  | deque => [.deque, .sequence, .sized]
  | userList => [.sequence, .sized]
  | set => [.set, .sized]
  | frozenset => [.frozenset, .hashable, .sized]

def DictKind.classes : DictKind → List Class
  | plain => [.dict, .mapping, .sized]
  | record => [.dict, .mapping, .sized, .record]
  | callableRecord => [.dict, .mapping, .callable, .sized]
  | ordered => [.dict, .orderedDict, .mapping, .sized]
  | defaulting | defaultless => [.dict, .defaultDict, .mapping, .sized]
  | user => [.mapping, .sized]
  | proxy => [.mapping, .sized]

def Class.lineage : Class → List Class
  | grandchild => [.hashable, .child, .grandchild]
  | caller => [.callable, .hashable, .caller]
  | valueError => [.exception, .valueError, .hashable]
  | mismatch => [.exception, .valueError, .mismatch, .hashable]
  | patternError => [.exception, .patternError, .hashable]
  | number => [.number]
  | c => [.hashable, c]

def Cell.classes : Cell → List Class
  | sequence k _ => k.classes
  | dict k _ => k.classes
  | byteArray _ => [.bytearray, .sequence, .sized]
  | inst c => c.lineage
  | pattern _ _ => [.hashable, .pattern]
  | predicate _ => [.callable, .hashable]

namespace Heap

/-- The classes of a value, the class of all objects aside. -/
def classes (h : Heap) : Value → List Class
  | .undefined => [.hashable]
  | .null => [.none, .hashable]
  | .bool _ => [.int, .bool, .hashable, .number, .integral]
  | .int _ => [.int, .hashable, .number, .integral]
  | .float _ => [.float, .hashable, .number]
  | .str _ => [.str, .sequence, .hashable, .sized]
  | .boxed (.str _) => [.str, .sequence, .hashable, .sized, .boxedStr]
  | .boxed (.int _) => [.int, .hashable, .number, .integral, .boxedInt]
  | .boxed (.float _) => [.float, .hashable, .number, .boxedFloat]
  | .userStr _ => [.sequence, .hashable, .sized]
  | .range _ _ _ => [.range, .sequence, .hashable, .sized]
  | .bytes .bytes _ => [.bytes, .sequence, .hashable, .sized]
  | .bytes .memoryview _ => [.sequence, .hashable, .sized]
  | .complex _ _ => [.complex, .hashable, .number]
  | .decimal _ => [.hashable, .number, .decimal]
  | .datetime _ => [.datetime, .date, .hashable]
  | .date _ => [.date, .hashable]
  | .regex _ => [.hashable, .regex]
  | .classObject _ => [.type, .callable, .hashable]
  | .union _ _ => [.hashable]
  | .listAlias _ => [.callable, .hashable]
  | .function _ => [.callable, .hashable]
  | .ref a => (h.cell a).classes

def isInstance (h : Heap) (v : Value) (c : Class) : Bool :=
  c = .object || (h.classes v).contains c

theorem isInstance_object (h : Heap) (v : Value) : h.isInstance v .object = true := by
  simp [isInstance]

def isCallable (h : Heap) (v : Value) : Bool := h.isInstance v .callable

/-- Is the value an array: a sequence other than a string or a byte string? -/
def isArrayLike (h : Heap) (v : Value) : Bool :=
  h.isInstance v .sequence &&
    !(h.isInstance v .str || h.isInstance v .bytes || h.isInstance v .bytearray)

/-- Is the value a dictionary of no derived class? -/
def isPlain (h : Heap) : Value → Bool
  | .ref a => match h.cell a with
    | .dict .plain _ => true
    | _ => false
  | _ => false

/-! ### Categories -/

def structuralCategory (h : Heap) (v : Value) : Category :=
  if h.isArrayLike v then .array
  else if h.isCallable v then .function
  else .object

/-- The category of a value. A boxed primitive is an object. -/
def category (h : Heap) : Value → Category
  | .undefined => .undefined
  | .null => .null
  | .bool _ => .boolean
  | .int _ => .number
  | .float _ => .number
  | .str _ => .string
  | v => h.structuralCategory v

/-! ### Items -/

def byteItems (content : List UInt8) : List Value := content.map fun b => .int b.toNat

def byteContent? (h : Heap) : Value → Option (List UInt8)
  | .bytes _ content => some content
  | .ref a => match h.cell a with
    | .byteArray content => some content
    | _ => none
  | _ => none

/-- The elements of an array. The elements of a string object are string objects. -/
def elements (h : Heap) : Value → Elements
  | .userStr s => .listed (s.toList.map fun c => .userStr c.toString)
  | .range start stop step => .ofRange start stop step
  | .bytes _ content => .listed (byteItems content)
  | .ref a => match h.cell a with
    | .sequence _ items => .listed items
    | _ => .listed []
  | _ => .listed []

def entries? (h : Heap) : Value → Option (List (Value × Value))
  | .ref a => match h.cell a with
    | .dict _ entries => some entries
    | _ => none
  | _ => none

def plainEntries? (h : Heap) : Value → Option (List (Value × Value))
  | .ref a => match h.cell a with
    | .dict .plain entries => some entries
    | _ => none
  | _ => none

theorem isPlain_iff_plainEntries? (h : Heap) (v : Value) :
    h.isPlain v = (h.plainEntries? v).isSome := by
  cases v <;> simp only [isPlain, plainEntries?, Option.isSome_none]
  split <;> simp_all

theorem isPlain_of_plainEntries? {h : Heap} {v : Value} {entries : List (Value × Value)}
    (hv : h.plainEntries? v = some entries) : h.isPlain v = true := by
  rw [isPlain_iff_plainEntries?, hv, Option.isSome_some]

def iterate? (h : Heap) (v : Value) : Option Elements :=
  match v with
  | .str s | .boxed (.str s) => some (.listed (s.toList.map fun c => .str c.toString))
  | .userStr _ | .range _ _ _ | .bytes _ _ => some (h.elements v)
  | .listAlias _ => some (.listed [v])
  | .ref a => match h.cell a with
    | .sequence _ items => some (.listed items)
    | .dict _ entries => some (.listed (entries.map (·.1)))
    | .byteArray content => some (.listed (byteItems content))
    | _ => none
  | _ => none

def length? (h : Heap) : Value → Option Nat
  | .str s | .boxed (.str s) | .userStr s => some s.length
  | .range start stop step => some (rangeLength start stop step)
  | .bytes _ content => some content.length
  | .ref a => match h.cell a with
    | .sequence _ items => some items.length
    | .dict _ entries => some entries.length
    | .byteArray content => some content.length
    | _ => none
  | _ => none

/-- Does the value count as true? Zeros, empty values, null and the undefined value do not. -/
def isTruthy (h : Heap) (v : Value) : Bool :=
  match v with
  | .undefined | .null => false
  | .bool b => b
  | _ => match v.number? with
    | some x => !x.isZero
    | none => match h.length? v with
      | some n => n ≠ 0
      | none => true

end Heap
end Conformance
