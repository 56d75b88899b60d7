import Conformance.Value.Basic

/-!
# Elements

The elements of an array, in order. The integers of a range are not listed until they are asked for,
so a range may hold more of them than could be listed.
-/

namespace Conformance

/-! ### Ranges -/

def rangeLength (start stop step : Int) : Nat :=
  if 0 < step then ((stop - start + step - 1) / step).toNat
  else if step < 0 then ((start - stop - step - 1) / (-step)).toNat
  else 0

theorem rangeLength_of_step_zero (start stop : Int) : rangeLength start stop 0 = 0 := rfl

/-! ### Elements -/

inductive Elements where
  | listed (items : List Value)
  /-- The integers `start`, `start + step` and so on, `count` of them. -/
  | progression (start step : Int) (count : Nat)

namespace Elements

def term (start step : Int) (i : Nat) : Value := .int (start + step * i)

def ofRange (start stop step : Int) : Elements :=
  .progression start step (rangeLength start stop step)

def take (n : Nat) : Elements → List Value
  | listed items => items.take n
  | progression start step count =>
    (List.range (min n count)).map (term start step)

def length : Elements → Nat
  | listed items => items.length
  | progression _ _ count => count

def toList : Elements → List Value
  | listed items => items
  | progression start step count => (List.range count).map (term start step)

theorem length_toList (e : Elements) : e.toList.length = e.length := by
  cases e <;> simp [toList, length]

theorem take_length (e : Elements) : e.take e.length = e.toList := by
  cases e <;> simp [take, length, toList]

end Elements
end Conformance
