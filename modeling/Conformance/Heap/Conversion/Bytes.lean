import Conformance.Fault
import Conformance.Heap.Kind

/-!
# Conversions to byte strings

What a byte string is made of: a number of zero bytes, another byte string, or integers that are
bytes. Only whether the result is empty is kept.
-/

namespace Conformance

namespace Heap

inductive BytesTarget where
  | bytes | bytearray
deriving DecidableEq, Repr

def BytesTarget.name : BytesTarget → String
  | bytes => "bytes"
  | bytearray => "bytearray"

def BytesTarget.noun : BytesTarget → String
  | bytes => "bytes"
  | bytearray => "byte"

/-- The greatest number of bytes that a byte string could hold if there were memory for it. -/
def BytesTarget.capacity : BytesTarget → Nat
  | bytes => sizeLimit - 33
  | bytearray => sizeLimit

/-- A byte string of `n` zeros is not empty. -/
def zeroBytes (target : BytesTarget) (typeName : String) (n : Int) : Except Fault Bool :=
  if !fitsWord n then .error (.conversion (.countTooGreat typeName))
  else if n < 0 then .error (.conversion .negativeCount)
  else if (target.capacity : Int) < n then .error (.conversion .tooManyBytes)
  else if (memoryLimit : Int) ≤ n then .error (.conversion .outOfMemory)
  else .ok (n ≠ 0)

def byte (h : Heap) (target : BytesTarget) (v : Value) : Except Fault UInt8 :=
  match v.index? with
  | none => .error (.conversion (.notIndex (h.fullTypeName v)))
  | some n =>
    if 0 ≤ n ∧ n < 256 then .ok (UInt8.ofNat n.toNat)
    else .error (.conversion (.notByte target.noun))

def checkBytes (h : Heap) (target : BytesTarget) (items : List Value) : Except Fault Unit :=
  items.forM fun v => do let _ ← h.byte target v

/-- Whether the byte string that a value is converted to has any bytes. A range of more than 256
integers holds one that is no byte, so no more of them are looked at. -/
def toBytes (h : Heap) (target : BytesTarget) (v : Value) : Except Fault Bool :=
  match v.string?, v.index? with
  | some _, _ => .error (.conversion .noEncoding)
  | none, some n => zeroBytes target (h.fullTypeName v) n
  | none, none => match h.iterate? v with
    | none => .error (.conversion (.notBytes (h.fullTypeName v) target.name))
    | some (.listed items) => do
      h.checkBytes target items
      return !items.isEmpty
    | some items@(.progression _ _ count) =>
      if target = .bytes ∧ sizeLimit < count then .error (.conversion (.machineTooSmall .size))
      else if target = .bytes ∧ memoryLimit ≤ count then .error (.conversion .outOfMemory)
      else do
        h.checkBytes target (items.take 257)
        return count ≠ 0

end Heap
end Conformance
