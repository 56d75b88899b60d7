import Conformance.Number.Numeral

/-!
# Binary floating-point numbers

A double is its three fields: a sign, a biased exponent of eleven bits and a fraction of fifty-two.
Every triple is a double, so the type carries no side condition. `Double.view` reads a double as a
mantissa times a power of two, and `Double.ofRatio` rounds a positive rational to the nearest
double, a tie going to the even mantissa.
-/

namespace Conformance

/-- A binary64 number by its fields. Two values that are not a number are told apart by their
fraction, and otherwise have no value. -/
structure Double where
  negative : Bool
  exponent : BitVec 11
  fraction : BitVec 52
deriving DecidableEq

namespace Double

/-- What a double stands for, sign aside. -/
inductive View where
  | nan
  | infinite
  /-- The number `mantissa * 2 ^ scale`. -/
  | finite (mantissa : Nat) (scale : Int)
deriving DecidableEq, Repr

def view (x : Double) : View :=
  if x.exponent.toNat = 2047 then
    if x.fraction.toNat = 0 then .infinite else .nan
  else if x.exponent.toNat = 0 then .finite x.fraction.toNat (-1074)
  else .finite (Nat.pow 2 52 + x.fraction.toNat) ((x.exponent.toNat : Int) - 1075)

/-- The gap to the double below is half the gap to the double above: `x` is a power of two and not
the least normal one. -/
def narrowBelow (x : Double) : Bool :=
  x.fraction.toNat = 0 && 1 < x.exponent.toNat

/-! ### Building doubles -/

def zero (negative : Bool) : Double := ⟨negative, 0, 0⟩

def infinity (negative : Bool) : Double := ⟨negative, 2047, 0⟩

/-- A value that is not a number. The tag keeps separately made ones apart. -/
def quietNaN (tag : Nat) : Double :=
  ⟨false, 2047, BitVec.ofNat 52 (Nat.pow 2 51 + tag % Nat.pow 2 51)⟩

def isZero (x : Double) : Bool := x.exponent.toNat = 0 && x.fraction.toNat = 0

def isWhole (x : Double) : Bool :=
  match x.view with
  | .finite mantissa scale => mantissa % Nat.pow 2 (-scale).toNat = 0
  | _ => false

theorem view_zero (negative : Bool) : (zero negative).view = .finite 0 (-1074) := by
  simp [view, zero]

theorem view_infinity (negative : Bool) : (infinity negative).view = .infinite := by
  simp [view, infinity]

/-- Packs `mantissa * 2 ^ scale`, for a mantissa of at most 53 bits (53 bits exactly, unless the
scale is the least one). A mantissa of `2 ^ 53` carries, and a scale past the greatest gives an
infinity. -/
def pack (negative : Bool) (mantissa : Nat) (scale : Int) : Double :=
  if mantissa < Nat.pow 2 52 then ⟨negative, 0, BitVec.ofNat 52 mantissa⟩
  else
    let carried := mantissa = Nat.pow 2 53
    let biased := (scale + (if carried then 1076 else 1075)).toNat
    if 2047 ≤ biased then infinity negative
    else ⟨negative, BitVec.ofNat 11 biased, BitVec.ofNat 52 (if carried then 0 else mantissa)⟩

/-- The quotient of two numbers, rounded to nearest and to even on a tie. -/
def roundDiv (num den : Nat) : Nat :=
  let q := num / den
  let r := num % den
  if 2 * r < den then q
  else if den < 2 * r then q + 1
  else if q % 2 = 0 then q else q + 1

/-- The nearest integer is at most half a unit away. -/
theorem roundDiv_near (num den : Nat) (h : 0 < den) :
    2 * (roundDiv num den * den) ≤ 2 * num + den ∧
      2 * num ≤ 2 * (roundDiv num den * den) + den := by
  have hdiv := Nat.div_add_mod num den
  have hlt := Nat.mod_lt num h
  have hcomm : den * (num / den) = num / den * den := Nat.mul_comm _ _
  simp only [roundDiv]
  split
  · omega
  · split
    · rw [Nat.add_mul]
      omega
    · split
      · omega
      · rw [Nat.add_mul]
        omega

/-- The scale at which `num / den` has a mantissa of 53 bits, or the least scale. -/
def scaleOf (num den : Nat) : Int :=
  let guess : Int := (num.log2 : Int) - den.log2 - 53
  let tooSmall := num * Nat.pow 2 (-guess).toNat / (den * Nat.pow 2 guess.toNat) ≥ Nat.pow 2 53
  max (if tooSmall then guess + 1 else guess) (-1074)

def ofRatio (negative : Bool) (num den : Nat) : Double :=
  if num = 0 then zero negative
  else
    let scale := scaleOf num den
    pack negative (roundDiv (num * Nat.pow 2 (-scale).toNat) (den * Nat.pow 2 scale.toNat)) scale

def ofInt? (n : Int) : Option Double :=
  let x := ofRatio (n < 0) n.natAbs 1
  if x.view = .infinite then none else some x

/-- The double nearest to `digits * 10 ^ exponent`. An exponent far outside of the range is settled
before any power is taken. -/
def ofScientific (negative : Bool) (digits : Nat) (exponent : Int) : Double :=
  let magnitude := exponent + (digits.log2 / 3 : Nat)
  if digits = 0 then zero negative
  else if 400 < exponent then infinity negative
  else if magnitude < -1000 then zero negative
  else ofRatio negative (digits * Nat.pow 10 exponent.toNat) (Nat.pow 10 (-exponent).toNat)

/-! ### Reading decimal text -/

/-- Reads the number at the front of a text, and returns what follows it: a numeral, or a word that
stands for an infinity or for no number. The tag serves a value that is no number. -/
def read? (tag : Nat) (text : List Char) : Option (Double × List Char) :=
  match Numeral.read? text with
  | some (n, rest) => some (ofScientific n.negative n.coefficient n.power, rest)
  | none =>
    let (negative, body) := Numeral.splitSign text
    match Numeral.takeWord? "infinity" body, Numeral.takeWord? "inf" body,
      Numeral.takeWord? "nan" body with
    | some rest, _, _ => some (infinity negative, rest)
    | none, some rest, _ => some (infinity negative, rest)
    | none, none, some rest => some (quietNaN tag, rest)
    | none, none, none => none

def parse? (tag : Nat) (text : List Char) : Option Double :=
  match read? tag text with
  | some (x, []) => some x
  | _ => none

end Double
end Conformance
