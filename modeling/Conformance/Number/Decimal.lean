import Conformance.Number.Numeral
import Conformance.Text.Digit

/-!
# Decimal numbers

A decimal number keeps the digits with which it was written, so `1.5` and `1.50` are two values of
one size. The text of a number shows the exponent only when the point would stand to the right of
the digits or more than six places to the left of them.
-/

namespace Conformance

inductive Decimal where
  /-- The number `coefficient * 10 ^ exponent`, with a sign. -/
  | finite (negative : Bool) (coefficient : Nat) (exponent : Int)
  | infinite (negative : Bool)
  /-- No number. A signaling one refuses to be compared. The payload is shown after the word, and
  the tag keeps separately made ones apart. -/
  | nan (signaling negative : Bool) (payload tag : Nat)
deriving DecidableEq

inductive DecimalFlaw where
  | malformed
  /-- The exponent cannot be held. -/
  | outOfRange
deriving DecidableEq, Repr

namespace Decimal

/-! ### Limits -/

def digitCount (n : Nat) : Nat := (toString n).length

/-- The greatest exponent of a leading digit. -/
def maxExponent : Int := 999999999999999999

/-- The least exponent of a coefficient. -/
def minExponent : Int := -1999999999999999997

/-- A finite number, whose exponent must be one that can be held. The coefficient of a zero counts
as one digit. -/
def make (negative : Bool) (coefficient : Nat) (exponent : Int) : Except DecimalFlaw Decimal :=
  if exponent + (digitCount coefficient : Int) - 1 > maxExponent ∨ exponent < minExponent then
    .error .outOfRange
  else .ok (.finite negative coefficient exponent)

/-! ### Reading -/

/-- The ASCII form of a text: underscores are dropped, blanks become spaces and digits become ASCII
digits. A text with any other character has none. -/
def plainForm? : List Char → Option (List Char)
  | [] => some []
  | c :: rest =>
    if c = '_' then plainForm? rest
    else if 0 < c.toNat && Text.isAscii c then (plainForm? rest).map (c :: ·)
    else if Text.isBlank c then (plainForm? rest).map (' ' :: ·)
    else do
      let n ← Text.digit? c
      return Text.asciiDigit n :: (← plainForm? rest)

/-- Reads a word that stands for an infinity or for no number. Digits may follow the latter. -/
def word? (tag : Nat) (text : List Char) : Option Decimal :=
  let (negative, body) := Numeral.splitSign text
  if Numeral.takeWord? "inf" body = some [] ∨ Numeral.takeWord? "infinity" body = some [] then
    some (.infinite negative)
  else match Numeral.takeWord? "nan" body, Numeral.takeWord? "snan" body with
    | some ds, _ => noNumber false negative ds
    | none, some ds => noNumber true negative ds
    | none, none => none
where
  /-- No number, with a payload of digits. -/
  noNumber (signaling negative : Bool) (ds : List Char) : Option Decimal :=
    if ds.all Char.isDigit then some (.nan signaling negative (digitsValue ds) tag) else none

/-- Reads a decimal number. The tag serves a value that is no number. -/
def read (tag : Nat) (text : List Char) : Except DecimalFlaw Decimal :=
  match plainForm? (Text.strip text) with
  | none => .error .malformed
  | some plain => match Numeral.parse? plain with
    | some n => make n.negative n.coefficient n.power
    | none => match word? tag plain with
      | some d => .ok d
      | none => .error .malformed

/-! ### Writing -/

/-- Digits with `places` of them after the point, zeros being filled in on the left. -/
def withPlaces (digits : List Char) (places : Nat) : List Char :=
  if places = 0 then digits
  else
    let padded := List.replicate (places + 1 - digits.length) '0' ++ digits
    padded.take (padded.length - places) ++ '.' :: padded.drop (padded.length - places)

def magnitudeText (coefficient : Nat) (exponent : Int) : String :=
  let digits := (toString coefficient).toList
  let adjusted := exponent + digits.length - 1
  if exponent ≤ 0 ∧ -6 ≤ adjusted then String.ofList (withPlaces digits (-exponent).toNat)
  else
    let mark := if adjusted < 0 then "E" else "E+"
    String.ofList (withLeadingPoint digits) ++ mark ++ toString adjusted

def text : Decimal → String
  | .finite negative c e => sign negative ++ magnitudeText c e
  | .infinite negative => sign negative ++ "Infinity"
  | .nan signaling negative payload _ =>
    sign negative ++ (if signaling then "sNaN" else "NaN") ++
      (if payload = 0 then "" else toString payload)
where
  /-- The sign of a negative number. -/
  sign (negative : Bool) : String := if negative then "-" else ""

def isZero : Decimal → Bool
  | .finite _ c _ => c = 0
  | _ => false

def isSignaling : Decimal → Bool
  | .nan signaling _ _ _ => signaling
  | _ => false

end Decimal
end Conformance
