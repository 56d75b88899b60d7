import Conformance.Heap.Conversion.Calendar
import Conformance.Heap.Conversion.Container
import Conformance.Heap.Conversion.Numeric
import Conformance.Heap.Display

/-!
# Classes called with one argument

What a class makes of one argument. Of the result only its truth value is kept.
-/

namespace Conformance
namespace Heap

/-- Checks that a value can be appended to a text. Besides texts, wrapped sequences can be. -/
def checkText (h : Heap) (v : Value) : Except Fault Unit :=
  match v.text?, v with
  | some _, _ => .ok ()
  | none, .ref a => match h.cell a with
    | .sequence .userList _ => .ok ()
    | _ => .error (.conversion (.notText (h.fullTypeName v)))
  | none, v => .error (.conversion (.notText (h.fullTypeName v)))

/-- The truth value of what a class makes of one argument. -/
def convert (h : Heap) (c : Class) (v : Value) : Except Fault Bool :=
  match c with
  | .bool => .ok (h.isTruthy v)
  | .str | .boxedStr => do return (← h.text v) ≠ ""
  | .int | .boxedInt => do return !(← h.toInteger v).isZero
  | .float | .boxedFloat => do return !(← h.toDouble v).isZero
  | .complex => do
    let (re, im) ← h.toComplex v
    return !(re.isZero && im.isZero)
  | .decimal => do return !(← h.toDecimal v).isZero
  | .bytes => h.toBytes .bytes v
  | .bytearray => h.toBytes .bytearray v
  | .range => match v.index? with
    | some n => .ok (0 < n)
    | none => .error (.conversion (.notIndex (h.fullTypeName v)))
  | .list | .tuple | .deque | .listSub => h.toSequence v
  | .set | .frozenset => h.toSet v
  | .dict | .record => h.toDict h.sizedPair v
  | .orderedDict => h.toDict h.unpackedPair v
  | .defaultDict => h.toDefaultDict v
  | .datetime => h.toDate .moment v
  | .date => h.toDate .date v
  | .type | .exception | .valueError => .ok true
  | .mismatch => do h.checkText v; return true
  | .patternError => do let _ ← h.text v; return true
  | .point => .error (.conversion (.missingArguments "Point.__new__()" ["y"]))
  | .regex => .error (.conversion (.notConstructible c.qualifiedName))
  | .none => .error (.conversion (.takesNoArguments c.name))
  | .object | .child | .grandchild | .parent | .caller | .anonymous | .sequence | .mapping
  | .callable | .hashable | .sized | .number | .integral | .pattern =>
    .error (.conversion (.takesNoArguments (c.name ++ "()")))

end Heap
end Conformance
