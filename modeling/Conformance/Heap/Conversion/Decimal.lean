import Conformance.Fault
import Conformance.Heap.Conversion.Bytes

/-!
# Conversions to decimal numbers

What a decimal number is made of: a text, a number, or its three parts, which are a sign, digits and
an exponent. A word may stand for the exponent of a value without digits.
-/

namespace Conformance

def decimalResult : Except DecimalFlaw Decimal → Except Fault Decimal
  | .ok d => .ok d
  | .error flaw => .error (.conversion (.decimalUnreadable flaw))

def Decimal.ofDouble (x : Double) : Decimal :=
  match Exact.ofDouble x with
  | .finite negative c e => .finite negative c e
  | .infinite negative => .infinite negative
  | .nan => .nan false x.negative 0 0

namespace Heap

/-! ### Parts -/

def partsFault (flaw : DecimalPartsFlaw) : Fault := .conversion (.decimalParts flaw)

def machineInteger (type : MachineType) (n : Int) : Except Fault Int :=
  if fitsWord n then .ok n else .error (.conversion (.machineTooSmall type))

def decimalSign (v : Value) : Except Fault Bool :=
  match v.index? with
  | none => .error (partsFault .sign)
  | some n => do
    let n ← machineInteger .long n
    if n = 0 then return false
    else if n = 1 then return true
    else .error (partsFault .sign)

def decimalDigits : List Value → Except Fault (List Nat)
  | [] => .ok []
  | v :: rest => match v.index? with
    | none => .error (partsFault .digits)
    | some n => do
      let n ← machineInteger .long n
      if 0 ≤ n ∧ n ≤ 9 then return n.toNat :: (← decimalDigits rest)
      else .error (partsFault .digits)

def tupleItems? (h : Heap) (v : Value) : Option (List Value) :=
  match v with
  | .ref a => match h.cell a with
    | .sequence k items =>
      if k.classes.contains .list || k.classes.contains .tuple then some items else none
    | _ => none
  | _ => none

def coefficientDigits (h : Heap) (v : Value) : Except Fault (List Nat) :=
  match h.tupleItems? v with
  | none => .error (partsFault .digits)
  | some items => decimalDigits items

def digitsNumber (digits : List Nat) : Nat := digits.foldl (fun n d => 10 * n + d) 0

/-- The decimal number of three parts. An infinity has no digits, whatever is given. -/
def decimalOfParts (h : Heap) : List Value → Except Fault Decimal
  | [sign, digits, exponent] => do
    let negative ← decimalSign sign
    match exponent.string? with
    | some word =>
      if word = "F" then do
        let _ ← h.coefficientDigits digits
        return .infinite negative
      else if word = "n" ∨ word = "N" then do
        return .nan (word = "N") negative (digitsNumber (← h.coefficientDigits digits)) 0
      else .error (partsFault .word)
    | none => match exponent.index? with
      | none => .error (partsFault .exponent)
      | some e => do
        let e ← machineInteger .size e
        decimalResult (Decimal.make negative (digitsNumber (← h.coefficientDigits digits)) e)
  | _ => .error (partsFault .length)

/-! ### Values -/

def toDecimal (h : Heap) (v : Value) : Except Fault Decimal :=
  match v, v.string?, v.index?, h.tupleItems? v with
  | .decimal d, _, _, _ => .ok d
  | .float x, _, _, _ | .boxed (.float x), _, _, _ => .ok (.ofDouble x)
  | _, some s, _, _ => decimalResult (Decimal.read 0 s.toList)
  | _, none, some n, _ => .ok (.finite (n < 0) n.natAbs 0)
  | _, none, none, some items => h.decimalOfParts items
  | v, none, none, none => .error (.conversion (.notDecimal (h.fullTypeName v)))

end Heap
end Conformance
