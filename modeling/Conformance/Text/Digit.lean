import Conformance.Text.Blank

/-!
# Decimal digits

The decimal digits of all scripts, and the ASCII form of a text that may hold a number. Every script
has its ten digits in a row, so a script is known by its zero.
-/

namespace Conformance.Text

def digitZeros : List Nat := [
  0x0030, 0x0660, 0x06F0, 0x07C0, 0x0966, 0x09E6, 0x0A66, 0x0AE6, 0x0B66, 0x0BE6, 0x0C66, 0x0CE6,
  0x0D66, 0x0DE6, 0x0E50, 0x0ED0, 0x0F20, 0x1040, 0x1090, 0x17E0, 0x1810, 0x1946, 0x19D0, 0x1A80,
  0x1A90, 0x1B50, 0x1BB0, 0x1C40, 0x1C50, 0xA620, 0xA8D0, 0xA900, 0xA9D0, 0xA9F0, 0xAA50, 0xABF0,
  0xFF10, 0x104A0, 0x10D30, 0x11066, 0x110F0, 0x11136, 0x111D0, 0x112F0, 0x11450, 0x114D0, 0x11650,
  0x116C0, 0x11730, 0x118E0, 0x11950, 0x11C50, 0x11D50, 0x11DA0, 0x16A60, 0x16AC0, 0x16B50,
  0x1D7CE, 0x1D7D8, 0x1D7E2, 0x1D7EC, 0x1D7F6, 0x1E140, 0x1E2F0, 0x1E950, 0x1FBF0]

def digit? (c : Char) : Option Nat :=
  (digitZeros.find? fun z => z ≤ c.toNat && c.toNat ≤ z + 9).map (c.toNat - ·)

theorem digit?_lt {c : Char} {n : Nat} (h : digit? c = some n) : n < 10 := by
  obtain ⟨z, hfind, rfl⟩ := Option.map_eq_some_iff.1 h
  have hrange := List.find?_some hfind
  simp only [Bool.and_eq_true, decide_eq_true_eq] at hrange
  omega

def asciiDigit (n : Nat) : Char := Char.ofNat (48 + n)

def isAscii (c : Char) : Bool := c.toNat < 0x80

/-- The ASCII form of a text: blanks become spaces and digits become ASCII digits. The first
character that has no such form ends the text, as a question mark. -/
def toAscii : List Char → List Char
  | [] => []
  | c :: rest =>
    if c.toNat < 0x7F then c :: toAscii rest
    else if isBlank c then ' ' :: toAscii rest
    else match digit? c with
      | some n => asciiDigit n :: toAscii rest
      | none => ['?']

/-- The form in which a text is read as a number. A text within ASCII stands for itself. -/
def numberForm (s : List Char) : List Char := if s.all isAscii then s else toAscii s

theorem numberForm_of_ascii {s : List Char} (h : s.all isAscii = true) : numberForm s = s := by
  simp only [numberForm, h, if_true]

/-- White space of ASCII, which may surround a number. -/
def isAsciiSpace (c : Char) : Bool := (0x09 ≤ c.toNat && c.toNat ≤ 0x0D) || c = ' '

def trimAscii (s : List Char) : List Char :=
  ((s.dropWhile isAsciiSpace).reverse.dropWhile isAsciiSpace).reverse

end Conformance.Text
