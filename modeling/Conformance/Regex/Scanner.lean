import Conformance.Regex.Flaw

/-!
# Reading regular expressions

The state of reading a regular expression, and the steps that take the text apart. A text is read in
tokens: a character, or a backslash with the character after it. A backslash at the end is an error
that shows as soon as the token before it is taken.
-/

namespace Conformance.Regex

/-- A character, or a backslash with the character after it. -/
abbrev Token := List Char

/-- The tokens of a text. A backslash at the end is no token. -/
def tokens : List Char → List Token
  | '\\' :: c :: rest => ['\\', c] :: tokens rest
  | ['\\'] => []
  | c :: rest => [c] :: tokens rest
  | [] => []

def hasOpenEnd : List Char → Bool
  | '\\' :: _ :: rest => hasOpenEnd rest
  | ['\\'] => true
  | _ :: rest => hasOpenEnd rest
  | [] => false

/-- How many characters a part of an expression can match: the least and the greatest number. -/
structure Width where
  least : Nat
  greatest : Nat
deriving DecidableEq, Repr

structure State where
  left : List Token
  /-- The place of the next token. -/
  place : Nat
  length : Nat
  endsOpen : Bool
  flags : List Flag
  /-- The names of groups. -/
  names : List (String × Nat)
  /-- The widths of groups; a group that is still open has none. -/
  groups : List (Option Width)
  /-- The number of groups at the start of the outermost assertion that looks behind. -/
  behind : Option Nat
  /-- The groups that conditions ask for, and where they do. -/
  conditions : List (Nat × Nat)

abbrev Reading := StateT State (Except Flaw)

namespace Reading

/-- Stops at a place that lies `offset` before the next token. -/
def fail {α : Type} (detail : String) (offset : Nat) : Reading α := do
  throw (.placed detail ((← get).place - offset))

def peek : Reading (Option Token) := return (← get).left.head?

def place : Reading Nat := return (← get).place

def take : Reading (Option Token) := do
  let s ← get
  match s.left with
  | [] => return none
  | t :: rest =>
    if rest.isEmpty && s.endsOpen then
      throw (.placed "bad escape (end of pattern)" (s.length - 1))
    set { s with left := rest, place := s.place + t.length }
    return some t

def accept (c : Char) : Reading Bool := do
  if (← peek) = some [c] then
    let _ ← take
    return true
  else return false

/-- Takes characters of a class, `n` of them at most. -/
def takeWhile (admits : Char → Bool) : Nat → Reading (List Char)
  | 0 => return []
  | n + 1 => do
    match ← peek with
    | some [c] =>
      if admits c then
        let _ ← take
        return c :: (← takeWhile admits n)
      else return []
    | _ => return []

/-- Takes all tokens up to a character, which must follow and is taken too. `noun` says what stands
before it; `done` holds what was taken. The fuel is the number of tokens. -/
def takeUntil (terminator : Char) (noun : String) (done : List Char) :
    Nat → Reading (List Char)
  | 0 => fail ("missing " ++ noun) 0
  | fuel + 1 => do
    match ← take with
    | none =>
      if done.isEmpty then fail ("missing " ++ noun) 0
      else fail ("missing " ++ terminator.toString ++ ", unterminated name") done.length
    | some t =>
      if t = [terminator] then
        if done.isEmpty then fail ("missing " ++ noun) 1 else return done
      else takeUntil terminator noun (done ++ t) fuel

def takeName (terminator : Char) (noun : String) : Reading (List Char) := do
  takeUntil terminator noun [] ((← get).left.length + 1)

def closedGroup? (n : Nat) : Reading (Option Width) := do
  return ((← get).groups[n]?).join

def checkBehind (n : Nat) : Reading Unit := do
  match (← get).behind with
  | none => return
  | some limit =>
    if (← closedGroup? n).isNone then fail "cannot refer to an open group" 0
    if limit ≤ n then fail "cannot refer to group defined in the same lookbehind subpattern" 0

end Reading

def State.ofText (text : List Char) : State :=
  { left := tokens text
    place := 0
    length := text.length
    endsOpen := hasOpenEnd text
    flags := []
    names := []
    groups := [none]
    behind := none
    conditions := [] }

end Conformance.Regex
