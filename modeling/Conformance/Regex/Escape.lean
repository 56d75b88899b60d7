import Conformance.Regex.Scanner
import Conformance.Text.CharacterName
import Conformance.Text.Display

/-!
# Escapes in regular expressions

What a backslash with the characters after it stands for: a character, a class of characters, a
place in the text, or an earlier group.
-/

namespace Conformance.Regex

inductive Escape where
  | literal (code : Nat)
  /-- A character that is not among the first 256. -/
  | beyondLatin
  | category
  | anchor
  | group (w : Width)

def isOctal (c : Char) : Bool := '0' ≤ c && c ≤ '7'

def isHex (c : Char) : Bool :=
  c.isDigit || ('a' ≤ c && c ≤ 'f') || ('A' ≤ c && c ≤ 'F')

def digitValue (c : Char) : Nat :=
  if c.isDigit then c.toNat - 48 else if c.toNat < 97 then c.toNat - 55 else c.toNat - 87

def valueIn (base : Nat) (digits : List Char) : Nat :=
  digits.foldl (fun n c => base * n + digitValue c) 0

/-- The characters that single letters stand for, inside a set and outside. -/
def controlCode? : Char → Option Nat
  | 'a' => some 7
  | 'f' => some 12
  | 'n' => some 10
  | 'r' => some 13
  | 't' => some 9
  | 'v' => some 11
  | '\\' => some 92
  | _ => none

def isCategory (c : Char) : Bool := ['d', 'D', 's', 'S', 'w', 'W'].contains c

def isAnchor (c : Char) : Bool := ['A', 'b', 'B', 'Z'].contains c

def badEscape {α : Type} (escape : List Char) : Reading α :=
  Reading.fail ("bad escape " ++ String.ofList escape) escape.length

/-- A code of exactly `width` hexadecimal digits after a letter. -/
def hexEscape (letter : Char) (width : Nat) : Reading Escape := do
  let digits ← Reading.takeWhile isHex width
  let escape := '\\' :: letter :: digits
  if digits.length ≠ width then
    Reading.fail ("incomplete escape " ++ String.ofList escape) escape.length
  else if 0x10FFFF < valueIn 16 digits then badEscape escape
  else return .literal (valueIn 16 digits)

def namedEscape : Reading Escape := do
  if !(← Reading.accept '\x7b') then Reading.fail "missing \x7b" 0
  let name ← Reading.takeName '\x7d' "character name"
  match Text.namedCharacter? name with
  | some (.code n) => return .literal n
  | some .beyondLatin => return .beyondLatin
  | none =>
    Reading.fail ("undefined character name " ++ Text.display (String.ofList name))
      (name.length + 4)

def octalEscape (digits : List Char) : Reading Escape :=
  if 255 < valueIn 8 digits then
    Reading.fail ("octal escape value \\" ++ String.ofList digits ++
      " outside of range 0-0o377") (digits.length + 1)
  else return .literal (valueIn 8 digits)

/-- The escapes that have one meaning inside a set and outside, if the letter begins one. -/
def commonEscape? (c : Char) : Option (Reading Escape) :=
  if c = 'x' then some (hexEscape 'x' 2)
  else if c = 'u' then some (hexEscape 'u' 4)
  else if c = 'U' then some (hexEscape 'U' 8)
  else if c = 'N' then some namedEscape
  else none

/-- An escape without any other meaning stands for the character itself, unless that is a letter of
ASCII. -/
def plainEscape (c : Char) : Reading Escape :=
  if c.isAlpha then badEscape ['\\', c] else return .literal c.toNat

def setEscape (c : Char) : Reading Escape :=
  match controlCode? c, commonEscape? c with
  | some code, _ => return .literal code
  | none, some read => read
  | none, none =>
    if c = 'b' then return .literal 8
    else if isCategory c then return .category
    else if isOctal c then do
      octalEscape (c :: (← Reading.takeWhile isOctal 2))
    else if c.isDigit then badEscape ['\\', c]
    else plainEscape c

def groupReference (digits : List Char) : Reading Escape := do
  let n := digitsValue digits
  if n < (← get).groups.length then
    match ← Reading.closedGroup? n with
    | none => Reading.fail "cannot refer to an open group" (digits.length + 1)
    | some w =>
      Reading.checkBehind n
      return .group w
  else Reading.fail ("invalid group reference " ++ toString n) digits.length

/-- An escape that begins with a digit other than zero: three octal digits are a code, and all else
is an earlier group. -/
def numericEscape (c : Char) : Reading Escape := do
  match ← Reading.peek with
  | some [d] =>
    if d.isDigit then
      let _ ← Reading.take
      match ← Reading.peek with
      | some [e] =>
        if isOctal c && isOctal d && isOctal e then
          let _ ← Reading.take
          octalEscape [c, d, e]
        else groupReference [c, d]
      | _ => groupReference [c, d]
    else groupReference [c]
  | _ => groupReference [c]

def escape (c : Char) : Reading Escape :=
  match controlCode? c, commonEscape? c with
  | some code, _ => return .literal code
  | none, some read => read
  | none, none =>
    if isAnchor c then return .anchor
    else if isCategory c then return .category
    else if c = '0' then do
      return .literal (valueIn 8 (c :: (← Reading.takeWhile isOctal 2)))
    else if c.isDigit then numericEscape c
    else plainEscape c

end Conformance.Regex
