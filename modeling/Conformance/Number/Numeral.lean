/-!
# Decimal numerals

The parts of a number in decimal notation: a sign, digits with an optional point, and an optional
exponent. A numeral stands for its coefficient, the digits read without the point, times a power
of ten. Underscores may separate digits; they are removed before a numeral is read.
-/

namespace Conformance

def digitsValue (ds : List Char) : Nat :=
  ds.foldl (fun n c => 10 * n + (c.toNat - 48)) 0

theorem digitsValue_nil : digitsValue [] = 0 := rfl

theorem digitsValue_append_singleton (ds : List Char) (c : Char) :
    digitsValue (ds ++ [c]) = 10 * digitsValue ds + (c.toNat - 48) := by
  simp only [digitsValue, List.foldl_append, List.foldl_cons, List.foldl_nil]

/-- The most decimal digits that an integer may be read or written with. -/
def digitLimit : Nat := 4300

/-- Digits with a point after the first one, unless there is only one. -/
def withLeadingPoint : List Char → List Char
  | d :: e :: rest => d :: '.' :: e :: rest
  | digits => digits

structure Numeral where
  negative : Bool
  whole : List Char
  decimals : List Char
  exponent : Int

namespace Numeral

/-- The wording for an integer that has too many digits to be read. -/
def tooLongMessage (digits : Nat) : String :=
  "Exceeds the limit (4300 digits) for integer string conversion: value has " ++
    toString digits ++ " digits; use sys.set_int_max_str_digits() to increase the limit"

/-- An optional sign, and what follows it. -/
def splitSign : List Char → Bool × List Char
  | '-' :: rest => (true, rest)
  | '+' :: rest => (false, rest)
  | rest => (false, rest)

def splitDigits (s : List Char) : List Char × List Char :=
  (s.takeWhile Char.isDigit, s.dropWhile Char.isDigit)

theorem splitDigits_append (s : List Char) : (splitDigits s).1 ++ (splitDigits s).2 = s :=
  List.takeWhile_append_dropWhile

/-- The exponent at the front of a text, and what follows it: a letter `e`, an optional sign and at
least one digit. A text that begins otherwise has the exponent zero. -/
def splitExponent : List Char → Int × List Char
  | [] => (0, [])
  | e :: rest =>
    let (down, tail) := splitSign rest
    let (ds, after) := splitDigits tail
    if (e = 'e' || e = 'E') && !ds.isEmpty then
      let n : Int := digitsValue ds
      (if down then -n else n, after)
    else (0, e :: rest)

/-- Reads the numeral at the front of a text, and returns what follows it. At least one digit must
stand before or after the point. -/
def read? (text : List Char) : Option (Numeral × List Char) :=
  let (negative, body) := splitSign text
  let (whole, tail) := splitDigits body
  let (decimals, tail) := match tail with
    | '.' :: t => splitDigits t
    | t => ([], t)
  if whole.isEmpty && decimals.isEmpty then none
  else
    let (exponent, tail) := splitExponent tail
    some ({ negative, whole, decimals, exponent }, tail)

def parse? (text : List Char) : Option Numeral :=
  match read? text with
  | some (n, []) => some n
  | _ => none

/-- Reads a word at the front of a text, whatever the case of its letters, and returns what follows
it. -/
def takeWord? (word : String) (text : List Char) : Option (List Char) :=
  if (text.take word.length).map Char.toLower = word.toList then some (text.drop word.length)
  else none

/-- The coefficient of a numeral: its digits read without the point. -/
def coefficient (n : Numeral) : Nat := digitsValue (n.whole ++ n.decimals)

def power (n : Numeral) : Int := n.exponent - n.decimals.length

/-! ### Separators -/

/-- Removes underscores, each of which must stand between two digits. `afterDigit` says whether a
digit stands in front of the text. -/
def joinDigits? (afterDigit : Bool) : List Char → Option (List Char)
  | [] => some []
  | '_' :: d :: rest =>
    if afterDigit && d.isDigit then (joinDigits? true rest).map (d :: ·) else none
  | c :: rest => if c = '_' then none else (joinDigits? c.isDigit rest).map (c :: ·)

/-- Removes the underscores of a text, if each of them stands between two digits. -/
def withoutSeparators? (text : List Char) : Option (List Char) := joinDigits? false text

theorem withoutSeparators?_nil : withoutSeparators? [] = some [] := rfl

end Numeral
end Conformance
