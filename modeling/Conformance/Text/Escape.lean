/-!
# Quoted text with escapes

`Repertoire.quote` writes a string between double quotes so that no control character, quote or
backslash stands in it unescaped. A repertoire says which characters may stand for themselves:
all from U+0020 on, or only the printable ASCII ones.
-/

namespace Conformance.Text

/-- The characters that quoted text may show as themselves. -/
inductive Repertoire where
  /-- Every character from U+0020 on. -/
  | unicode
  /-- The characters from the space to the tilde. -/
  | ascii
deriving DecidableEq, Repr

/-- May `c` stand unescaped, quotes and backslashes aside? -/
def Repertoire.admits : Repertoire → Char → Bool
  | .unicode, c => 0x20 ≤ c.toNat
  | .ascii, c => 0x20 ≤ c.toNat && c.toNat ≤ 0x7E

/-! ### Hexadecimal units -/

def hexDigit (n : Nat) : Char :=
  if n < 10 then Char.ofNat (48 + n) else Char.ofNat (87 + n)

/-- The last `width` hexadecimal digits of `n`, most significant first. -/
def hexDigits : Nat → Nat → List Char
  | 0, _ => []
  | width + 1, n => hexDigits width (n / 16) ++ [hexDigit (n % 16)]

theorem hexDigits_length (width n : Nat) : (hexDigits width n).length = width := by
  induction width generalizing n with
  | zero => rfl
  | succ width ih => simp only [hexDigits, List.length_append, ih, List.length_singleton]

def escapeUnit (n : Nat) : List Char := '\\' :: 'u' :: hexDigits 4 n

/-- A code point as one 16-bit unit, or as two when it needs more than 16 bits. -/
def escapeCode (n : Nat) : List Char :=
  if n < 0x10000 then escapeUnit n
  else escapeUnit (0xD800 + (n - 0x10000) / 0x400) ++ escapeUnit (0xDC00 + (n - 0x10000) % 0x400)

/-! ### Characters and strings -/

def Repertoire.escape (r : Repertoire) (c : Char) : List Char :=
  if c = '"' then ['\\', '"']
  else if c = '\\' then ['\\', '\\']
  else if r.admits c then [c]
  else if c = '\n' then ['\\', 'n']
  else if c = '\r' then ['\\', 'r']
  else if c = '\t' then ['\\', 't']
  else if c.toNat = 0x08 then ['\\', 'b']
  else if c.toNat = 0x0C then ['\\', 'f']
  else escapeCode c.toNat

def Repertoire.quoteChars (r : Repertoire) (s : List Char) : List Char :=
  '"' :: s.flatMap r.escape ++ ['"']

def Repertoire.quote (r : Repertoire) (s : String) : String :=
  String.ofList (r.quoteChars s.toList)

theorem Repertoire.toList_quote (r : Repertoire) (s : String) :
    (r.quote s).toList = r.quoteChars s.toList := by
  simp only [quote, String.toList_ofList]

end Conformance.Text
