import Conformance.Number.Layout

/-!
# Doubles in a given number of digits

A double rounded to a number of places after the point or to a number of significant digits, and
the texts in which templates ask for it: with fixed places, with an exponent, or in whichever of the
two is shorter. Rounding is to the nearest, and a half goes to the even neighbour.
-/

namespace Conformance

namespace Double

/-- The integer nearest to `mantissa * 2 ^ scale * 10 ^ places`. -/
def roundAt (mantissa : Nat) (scale places : Int) : Nat :=
  roundDiv (mantissa * Nat.pow 2 scale.toNat * Nat.pow 10 places.toNat)
    (Nat.pow 2 (-scale).toNat * Nat.pow 10 (-places).toNat)

/-- The nearest decimal with `n` significant digits. The digits of zero are zeros. -/
def significant (mantissa : Nat) (scale : Int) (n : Nat) : ScaledDecimal :=
  if mantissa = 0 then ⟨0, 1 - n⟩
  else
    let estimate := ((mantissa.log2 : Int) + scale) * 30103 / 100000 - 1
    let places := n - decimalScale mantissa scale 4 estimate
    let digits := roundAt mantissa scale places
    if digits = Nat.pow 10 n then ⟨Nat.pow 10 (n - 1), 1 - places⟩ else ⟨digits, -places⟩

end Double

/-- How a template asks for a double. -/
inductive DoubleForm where
  /-- A fixed number of places after the point. -/
  | fixed
  /-- One digit before the point, and an exponent. -/
  | scientific
  /-- The shorter of the two; the precision counts significant digits. -/
  | general
deriving DecidableEq, Repr

namespace DoubleForm

/-- The digits of a number, zeros being filled in on the left. -/
def leftDigits (width n : Nat) : List Char :=
  let digits := (toString n).toList
  List.replicate (width - digits.length) '0' ++ digits

/-- Digits with a point before the last `places` of them. The alternate form keeps a point at the
end. -/
def withPoint (alternate : Bool) (digits : List Char) (places : Nat) : List Char :=
  let whole := digits.take (digits.length - places)
  match digits.drop (digits.length - places) with
  | [] => if alternate then whole ++ ['.'] else whole
  | decimals => whole ++ '.' :: decimals

/-- Drops the zeros at the end, but not the first digit. -/
def dropZeros : List Char → List Char
  | [] => []
  | d :: rest => d :: (rest.reverse.dropWhile (· = '0')).reverse

/-- Digits with one of them before the point, and an exponent. -/
def exponential (alternate : Bool) (digits : List Char) (exponent : Int) : List Char :=
  withPoint alternate digits (digits.length - 1) ++ (exponentText exponent).toList

/-- The text of `mantissa * 2 ^ scale` in a form. -/
def magnitude (form : DoubleForm) (alternate : Bool) (precision : Nat) (mantissa : Nat)
    (scale : Int) : List Char :=
  match form with
  | fixed =>
    withPoint alternate (leftDigits (precision + 1) (Double.roundAt mantissa scale precision))
      precision
  | scientific =>
    let d := Double.significant mantissa scale (precision + 1)
    exponential alternate (leftDigits (precision + 1) d.digits) (d.exponent + precision)
  | general =>
    let count := max precision 1
    let d := Double.significant mantissa scale count
    let exponent := d.exponent + (count - 1 : Nat)
    let digits := leftDigits count d.digits
    let kept := if alternate then digits else dropZeros digits
    if -4 ≤ exponent ∧ exponent < count then
      if exponent < 0 then
        '0' :: '.' :: List.replicate (-exponent - 1).toNat '0' ++ kept
      else
        let padded := kept ++ List.replicate (exponent.toNat + 1 - kept.length) '0'
        withPoint alternate padded (padded.length - (exponent.toNat + 1))
    else exponential alternate kept exponent

def write (form : DoubleForm) (alternate : Bool) (precision : Nat) (x : Double) : List Char :=
  match x.view with
  | .nan => DoubleLayout.diagnostic.nan.toList
  | .infinite => DoubleLayout.diagnostic.infinity.toList
  | .finite mantissa scale => form.magnitude alternate precision mantissa scale

end DoubleForm
end Conformance
