import Conformance.Fault

/-!
# Instances made without arguments

What a class makes when it is called without arguments. Classes of values that are complete in
themselves make the zero or empty value, container classes make an empty container, and other
classes make an instance without parts. Abstract classes and classes that need arguments refuse.
-/

namespace Conformance

namespace Class

def emptyValue? : Class → Option Value
  | int => some (.int 0)
  | float => some (.float (.zero false))
  | bool => some (.bool false)
  | str => some (.str "")
  | none => some .null
  | bytes => some (.bytes .bytes [])
  | complex => some (.complex (.zero false) (.zero false))
  | decimal => some (.decimal (.finite false 0 0))
  | boxedStr => some (.boxed (.str ""))
  | boxedInt => some (.boxed (.int 0))
  | boxedFloat => some (.boxed (.float (.zero false)))
  | _ => Option.none

def emptyObject (tag : Nat) : Class → Cell
  | list => .sequence .list []
  | listSub => .sequence .derivedList []
  | tuple => .sequence .tuple []
  | set => .sequence .set []
  | frozenset => .sequence .frozenset []
  | deque => .sequence .deque []
  | bytearray => .byteArray []
  | dict => .dict .plain []
  | record => .dict .record []
  | orderedDict => .dict .ordered []
  | defaultDict => .dict .defaultless []
  | pattern => .pattern (.foreign .general tag) []
  | c => .inst c

/-- The methods that an abstract class leaves to its subclasses. -/
def abstractMethods : Class → List String
  | sequence => ["__getitem__", "__len__"]
  | mapping => ["__getitem__", "__iter__", "__len__"]
  | callable => ["__call__"]
  | hashable => ["__hash__"]
  | sized => ["__len__"]
  | integral =>
    ["__abs__", "__add__", "__and__", "__ceil__", "__eq__", "__floor__", "__floordiv__",
      "__int__", "__invert__", "__le__", "__lshift__", "__lt__", "__mod__", "__mul__", "__neg__",
      "__or__", "__pos__", "__pow__", "__radd__", "__rand__", "__rfloordiv__", "__rlshift__",
      "__rmod__", "__rmul__", "__ror__", "__round__", "__rpow__", "__rrshift__", "__rshift__",
      "__rtruediv__", "__rxor__", "__truediv__", "__trunc__", "__xor__"]
  | _ => []

def refusal? : Class → Option ConversionFlaw
  | type => some .typeArguments
  | range => some (.rangeArguments 0)
  | regex => some (.notConstructible regex.qualifiedName)
  | datetime | date => some (.missingPart "year" 1)
  | point => some (.missingArguments "Point.__new__()" ["x", "y"])
  | mismatch => some (.missingArguments "StructuralMismatch.__init__()" ["reason"])
  | patternError => some (.missingArguments "PatternError.__init__()" ["detail"])
  | c => match c.abstractMethods with
    | [] => Option.none
    | methods => some (.abstractClass c.name methods)

end Class

/-- Makes an instance of a class without arguments. The tag serves a pattern. -/
def Heap.instantiate (h : Heap) (tag : Nat) (c : Class) : Except Fault (Heap × Value) :=
  match c.refusal?, c.emptyValue? with
  | some flaw, _ => .error (.conversion flaw)
  | none, some v => .ok (h, v)
  | none, none => .ok (h.alloc (c.emptyObject tag))

end Conformance
