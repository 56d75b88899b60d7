/-!
# Classes

The classes that values belong to and that patterns may name. A class has a label, which identifies
it, a name, which failures show, and a qualified name, which diagnostics show.
-/

namespace Conformance

inductive Class where
  | object | int | float | bool | str | list | dict | tuple | set | frozenset
  | bytes | bytearray | complex | range | type | none | exception | valueError
  | regex | datetime | date | orderedDict | defaultDict | deque
  | sequence | mapping | callable | hashable | sized | number | integral | decimal
  | child | grandchild | parent | caller | boxedStr | boxedInt | boxedFloat
  | record | point | listSub | anonymous | mismatch | patternError | pattern
deriving DecidableEq, Repr

namespace Class

def all : List Class :=
  [object, int, float, bool, str, list, dict, tuple, set, frozenset, bytes, bytearray, complex,
    range, type, none, exception, valueError, regex, datetime, date, orderedDict, defaultDict,
    deque, sequence, mapping, callable, hashable, sized, number, integral, decimal, child,
    grandchild, parent, caller, boxedStr, boxedInt, boxedFloat, record, point, listSub, anonymous,
    mismatch, patternError, pattern]

theorem mem_all (c : Class) : c ∈ all := by cases c <;> decide

def label : Class → String
  | object => "object" | int => "int" | float => "float" | bool => "bool" | str => "str"
  | list => "list" | dict => "dict" | tuple => "tuple" | set => "set" | frozenset => "frozenset"
  | bytes => "bytes" | bytearray => "bytearray" | complex => "complex" | range => "range"
  | type => "type" | none => "NoneType" | exception => "Exception" | valueError => "ValueError"
  | regex => "re.Pattern" | datetime => "datetime" | date => "date"
  | orderedDict => "OrderedDict" | defaultDict => "defaultdict" | deque => "deque"
  | sequence => "Sequence" | mapping => "Mapping" | callable => "Callable"
  | hashable => "Hashable" | sized => "Sized" | number => "Number" | integral => "Integral"
  | decimal => "Decimal" | child => "Child" | grandchild => "Grandchild" | parent => "Parent"
  | caller => "Caller" | boxedStr => "BoxedStr" | boxedInt => "BoxedInt"
  | boxedFloat => "BoxedFloat" | record => "Record" | point => "Point" | listSub => "ListSub"
  | anonymous => "Anonymous" | mismatch => "StructuralMismatch" | patternError => "PatternError"
  | pattern => "shapecheck.Pattern"

def ofLabel? (label : String) : Option Class := all.find? (·.label = label)

/-- The name of a class. One class has an empty name. -/
def name : Class → String
  | regex => "Pattern"
  | pattern => "Pattern"
  | anonymous => ""
  | c => c.label

/-- The module that a qualified name begins with. -/
def home : Class → String
  | regex => "re."
  | datetime | date => "datetime."
  | orderedDict | defaultDict | deque => "collections."
  | sequence | mapping | callable | hashable | sized => "collections.abc."
  | number | integral => "numbers."
  | decimal => "decimal."
  | child | grandchild | parent | caller | boxedStr | boxedInt | boxedFloat | record | point
  | listSub | anonymous => "driver."
  | mismatch | patternError => "shapecheck.errors."
  | pattern => "shapecheck.patterns."
  | _ => ""

def ownName : Class → String
  | anonymous => "Anonymous"
  | c => c.name

def qualifiedName (c : Class) : String := c.home ++ c.ownName

def memberName : Class → String
  | none => "None"
  | c => c.qualifiedName

/-- Is the class one that is fixed, so that its attributes cannot be changed? -/
def isFixed : Class → Bool
  | sequence | mapping | callable | hashable | sized | number | integral | child | grandchild
  | parent | caller | boxedStr | boxedInt | boxedFloat | record | point | listSub | anonymous
  | mismatch | patternError | pattern => false
  | _ => true

/-- The name by which faults call a class whose attribute is wanted. -/
def ownerName (c : Class) : String := if c.isFixed then c.qualifiedName else c.name

def display (c : Class) : String := "<class '" ++ c.qualifiedName ++ "'>"

end Class
end Conformance
