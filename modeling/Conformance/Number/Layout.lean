import Conformance.Number.Shortest

/-!
# Written doubles

How the digits of a double are laid out. A layout fixes the texts of the values without digits and
whether a whole number keeps a point. Digits are written positionally while the decimal exponent is
from -4 to 15, and with a signed exponent of at least two digits otherwise.
-/

namespace Conformance

/-- The decisions that differ between the places where doubles are written. -/
structure DoubleLayout where
  nan : String
  infinity : String
  /-- Does a whole number end in `.0`? -/
  keepsPoint : Bool

namespace DoubleLayout

def document : DoubleLayout := ⟨"NaN", "Infinity", true⟩

def diagnostic : DoubleLayout := ⟨"nan", "inf", true⟩

def complexPart : DoubleLayout := ⟨"nan", "inf", false⟩

end DoubleLayout

/-! ### Digits -/

/-- An exponent: a sign and at least two digits. -/
def exponentText (e : Int) : String :=
  let digits := toString e.natAbs
  "e" ++ (if e < 0 then "-" else "+") ++ (if digits.length < 2 then "0" ++ digits else digits)

/-- Digits with a point after the first `point` of them, zeros being filled in on either side. -/
def positional (keepsPoint : Bool) (digits : List Char) (point : Int) : List Char :=
  if point ≤ 0 then '0' :: '.' :: List.replicate (-point).toNat '0' ++ digits
  else
    let whole := digits.take point.toNat ++ List.replicate (point.toNat - digits.length) '0'
    match digits.drop point.toNat with
    | [] => if keepsPoint then whole ++ ['.', '0'] else whole
    | rest => whole ++ '.' :: rest

def ScaledDecimal.text (keepsPoint : Bool) (d : ScaledDecimal) : String :=
  let digits := (toString d.digits).toList
  let point : Int := digits.length + d.exponent
  if -4 ≤ point - 1 ∧ point - 1 < 16 then String.ofList (positional keepsPoint digits point)
  else String.ofList (withLeadingPoint digits) ++ exponentText (point - 1)

/-! ### Doubles -/

def DoubleLayout.magnitude (l : DoubleLayout) (x : Double) : String :=
  match x.view with
  | .nan => l.nan
  | .infinite => l.infinity
  | .finite mantissa scale => (Double.shortest mantissa scale x.narrowBelow).text l.keepsPoint

/-- The text of a double. A value that is not a number shows no sign. -/
def DoubleLayout.write (l : DoubleLayout) (x : Double) : String :=
  if x.negative && x.view ≠ .nan then "-" ++ l.magnitude x else l.magnitude x

end Conformance
