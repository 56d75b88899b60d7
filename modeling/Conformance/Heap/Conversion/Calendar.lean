import Conformance.Heap.Conversion.Decimal

/-!
# Conversions to dates

A date or a moment is not made of one number, because its month would be missing. A packed byte
string, or a text with the same codes, holds all parts; its third byte is the month.
-/

namespace Conformance

inductive PackedDate where
  | date | moment
deriving DecidableEq, Repr

namespace PackedDate

def size : PackedDate → Nat
  | date => 4
  | moment => 10

def noun : PackedDate → String
  | date => "date"
  | moment => "datetime"

/-- Do the codes hold a packed date? The highest bit of a moment's month has another meaning. -/
def admits (p : PackedDate) (codes : List Nat) : Bool :=
  codes.length = p.size && match codes[2]? with
    | some n =>
      let month := if p = .moment then n % 128 else n
      1 ≤ month && month ≤ 12
    | none => false

end PackedDate

namespace Heap

def part (h : Heap) (v : Value) : Except Fault Int :=
  match v.index? with
  | some n => .ok n
  | none => .error (.conversion (.notIndex (h.fullTypeName v)))

/-- A part of a date, which must be a machine integer. -/
def datePart (h : Heap) (v : Value) : Except Fault Int := do
  let n ← machineInteger .long (← h.part v)
  if n < -(Nat.pow 2 31 : Int) then .error (.conversion (.outsideSigned true))
  else if (Nat.pow 2 31 : Int) ≤ n then .error (.conversion (.outsideSigned false))
  else return n

/-- The named parts of a date, from the place `i` on, and the parts after them. -/
def dateParts (h : Heap) (i : Nat) :
    List String → List Value → Except Fault (List Int × List Value)
  | [], rest => .ok ([], rest)
  | name :: _, [] => .error (.conversion (.missingPart name i))
  | _ :: names, v :: rest => do
    let n ← h.datePart v
    let (ns, left) ← h.dateParts (i + 1) names rest
    return (n :: ns, left)

def datePartNames : List String := ["year", "month", "day"]

/-- Making a date from a single part fails, because there is no month. -/
def lonelyYear (h : Heap) (v : Value) : Except Fault Bool := do
  let _ ← h.dateParts 1 datePartNames [v]
  return true

/-- Whether a value holds a packed date, from which a date can be made. -/
def toDate (h : Heap) (p : PackedDate) (v : Value) : Except Fault Bool :=
  match v, v.string? with
  | .bytes .bytes content, _ =>
    if p.admits (content.map (·.toNat)) then .ok true else h.lonelyYear v
  | v, some s =>
    if p.admits (s.toList.map (·.toNat)) then
      if s.toList.all (·.toNat < 256) then .ok true
      else .error (.conversion (.notLatin p.noun))
    else h.lonelyYear v
  | v, none => h.lonelyYear v

end Heap
end Conformance
