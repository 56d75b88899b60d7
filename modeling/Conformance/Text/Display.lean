import Conformance.Text.Escape
import Conformance.Text.Printable

/-!
# Displayed text

The form in which diagnostics show a string or a byte string: between apostrophes, or between
double quotes when the content holds an apostrophe and no double quote. The mark in use, the
backslash and everything that is not printable are escaped.
-/

namespace Conformance.Text

/-- The mark that encloses a displayed text. -/
def displayMark (s : List Char) : Char :=
  if s.contains '\'' && !s.contains '"' then '"' else '\''

theorem displayMark_cases (s : List Char) : displayMark s = '"' ∨ displayMark s = '\'' := by
  simp only [displayMark]
  split
  · exact Or.inl rfl
  · exact Or.inr rfl

def displayCode (n : Nat) : List Char :=
  if n < 0x100 then '\\' :: 'x' :: hexDigits 2 n
  else if n < 0x10000 then '\\' :: 'u' :: hexDigits 4 n
  else '\\' :: 'U' :: hexDigits 8 n

/-- One character of a displayed text whose printable characters are those of `printable`. -/
def displayChar (printable : Char → Bool) (mark c : Char) : List Char :=
  if c = mark || c = '\\' then ['\\', c]
  else if c = '\n' then ['\\', 'n']
  else if c = '\r' then ['\\', 'r']
  else if c = '\t' then ['\\', 't']
  else if printable c then [c]
  else displayCode c.toNat

def displayChars (printable : Char → Bool) (s : List Char) : List Char :=
  let mark := displayMark s
  mark :: s.flatMap (displayChar printable mark) ++ [mark]

def display (s : String) : String := String.ofList (displayChars isPrintable s.toList)

/-- A text in which every character outside ASCII is escaped. -/
def escapeBeyondAscii (s : List Char) : List Char :=
  s.flatMap fun c => if c.toNat < 0x80 then [c] else displayCode c.toNat

/-- A byte string as diagnostics show it: only printable ASCII stands for itself. -/
def displayBytes (bytes : List UInt8) : String :=
  let chars := bytes.map fun b => Char.ofNat b.toNat
  String.ofList ('b' :: displayChars Repertoire.ascii.admits chars)

end Conformance.Text
