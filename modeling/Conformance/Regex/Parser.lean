import Conformance.Regex.Escape
import Conformance.Text.Letter

/-!
# The grammar of regular expressions

A text is read only as far as it decides whether it is a regular expression and which flags it
switches on. Of every part the width is kept, because an assertion that looks behind must have one
width, whether a repetition may follow, and its first defect, which counts only once the whole text
has turned out to follow the grammar.
-/

namespace Conformance.Regex

/-! ### Parts -/

/-- What decides whether a repetition may follow a part. -/
inductive PartKind where
  | anchor | repetition | other
deriving DecidableEq, Repr

structure Part where
  kind : PartKind
  width : Width
  /-- The first defect, that of the part itself before those of what it holds. -/
  defect : Option Defect
  /-- How far behind the part looks at most. -/
  reach : Nat

namespace Width

/-- The greatest width that is told apart, which also stands for any greater one. -/
def limit : Nat := Nat.pow 2 32 - 1

/-- A width within the limits. No least width is the limit itself, so nothing as wide as that has
one width. -/
def clamp (least greatest : Nat) : Width := ⟨min least (limit - 1), min greatest limit⟩

def zero : Width := ⟨0, 0⟩

def one : Width := ⟨1, 1⟩

def append (v w : Width) : Width := clamp (v.least + w.least) (v.greatest + w.greatest)

def ofChoices (widths : List Width) : Width :=
  match widths with
  | [] => zero
  | w :: rest =>
    ⟨rest.foldl (fun n v => min n v.least) w.least,
      rest.foldl (fun n v => max n v.greatest) w.greatest⟩

end Width

namespace Part

/-- A part that is no repetition and holds no others. -/
def plain (w : Width) : Part := ⟨.other, w, none, 0⟩

def anchor : Part := ⟨.anchor, .zero, none, 0⟩

/-- A part of a width that holds others, which are given in order. -/
def holding (w : Width) (parts : List Part) : Part :=
  ⟨.other, w, parts.findSome? (·.defect), parts.foldl (fun n p => max n p.reach) 0⟩

/-- Parts in a row, which are given in reverse. -/
def row (parts : List Part) : Part :=
  holding (parts.foldr (fun p w => w.append p.width) .zero) parts.reverse

def choices (parts : List Part) : Part := holding (.ofChoices (parts.map (·.width))) parts

def optional (p : Part) : Part := holding ⟨0, p.width.greatest⟩ [p]

def lookingAhead (p : Part) : Part := holding .zero [p]

def lookingBehind (p : Part) : Part :=
  { p with
    kind := .other
    width := .zero
    defect := if p.width.least = p.width.greatest then p.defect else some .widthVaries
    reach := max p.width.least p.reach }

/-- How far behind a part may look. -/
def reachLimit : Nat := Nat.pow 2 31 - 1

end Part

/-! ### Sets -/

/-- May two escapes be the ends of a range? Both must be characters, in the order of their codes. -/
def Escape.inOrder : Escape → Escape → Bool
  | .literal a, .literal b => a ≤ b
  | .literal _, .beyondLatin | .beyondLatin, .beyondLatin => true
  | .beyondLatin, .literal b => 0xFF < b
  | _, _ => false

def setMember (t : Token) : Reading Escape :=
  match t with
  | ['\\', c] => setEscape c
  | [c] => return .literal c.toNat
  | _ => return .literal 0

/-- Reads the members of a set up to the bracket that ends it. The bracket is a member if no other
is there. `start` is the place of the set. -/
def readSet (start : Nat) : Nat → Bool → Reading Unit
  | 0, _ => Reading.fail "unterminated character set" 0
  | fuel + 1, hasMembers => do
    let unterminated : Reading Unit := do
      Reading.fail "unterminated character set" ((← Reading.place) - start)
    match ← Reading.take with
    | none => unterminated
    | some t =>
      if t = [']'] && hasMembers then return
      let low ← setMember t
      if !(← Reading.accept '-') then readSet start fuel true
      else match ← Reading.take with
        | none => unterminated
        | some u =>
          if u = [']'] then return
          let high ← setMember u
          if low.inOrder high then readSet start fuel true
          else
            Reading.fail ("bad character range " ++ String.ofList t ++ "-" ++ String.ofList u)
              (t.length + 1 + u.length)

/-! ### Repetitions -/

/-- The number of repetitions that stands for any number. -/
def maxRepeat : Nat := Width.limit

def repeatBound (digits : List Char) : Reading Nat :=
  if digitLimit < digits.length then throw (.boundTooLong digits.length)
  else if maxRepeat ≤ digitsValue digits then throw .repetitionTooLarge
  else return digitsValue digits

/-- Reads the bounds of a repetition between braces, after the opening brace. A brace that begins no
bounds is a character. -/
def readBounds (start : Nat) : Reading (Option (Nat × Nat)) := do
  if (← Reading.peek) = some ['\x7d'] then return none
  let saved ← get
  let low ← Reading.takeWhile Char.isDigit saved.left.length
  let high ← if ← Reading.accept ',' then Reading.takeWhile Char.isDigit saved.left.length
    else pure low
  if !(← Reading.accept '\x7d') then
    set saved
    return none
  let least ← if low.isEmpty then pure 0 else repeatBound low
  if high.isEmpty then return some (least, maxRepeat)
  let greatest ← repeatBound high
  if greatest < least then
    Reading.fail "min repeat greater than max repeat" ((← Reading.place) - start)
  else return some (least, greatest)

def Part.repeated (p : Part) (least greatest : Nat) (greed : Greed) (inTemplate : Bool) : Part :=
  { p with
    kind := .repetition
    width := .clamp (p.width.least * least) (p.width.greatest * greatest)
    defect := if inTemplate then some (.repeatsInTemplate greed) else p.defect }

/-- The mark after a repetition that says how much it takes. -/
def readGreed : Reading Greed := do
  if ← Reading.accept '?' then return .least
  else if ← Reading.accept '+' then return .all
  else return .most

/-- Repeats the newest of the parts, which stand in reverse. A question mark or a plus sign after a
repetition belongs to it. -/
def repeatNewest (start : Nat) (parts : List Part) (bounds : Nat × Nat) :
    Reading (List Part) := do
  let offset := (← Reading.place) - start + 1
  match parts with
  | [] => Reading.fail "nothing to repeat" offset
  | p :: rest =>
    if p.kind = .anchor then Reading.fail "nothing to repeat" offset
    if p.kind = .repetition then Reading.fail "multiple repeat" offset
    let greed ← readGreed
    return p.repeated bounds.1 bounds.2 greed ((← get).flags.contains .template) :: rest

/-! ### Names of groups -/

/-- Checks the name of a group, which was taken up to the character after it. -/
def checkName (name : List Char) : Reading Unit :=
  if Text.isName name then return
  else Reading.fail ("bad character in group name " ++ Text.display (String.ofList name))
    (name.length + 1)

def groupOf (name : List Char) : Reading Nat := do
  match (← get).names.find? (·.1 = String.ofList name) with
  | some (_, n) => return n
  | none =>
    Reading.fail ("unknown group name " ++ Text.display (String.ofList name)) (name.length + 1)

/-- Opens a group, whose name must be new. -/
def openGroup (name : Option (List Char)) : Reading Nat := do
  let s ← get
  let n := s.groups.length
  match name with
  | none =>
    set { s with groups := s.groups ++ [none] }
    return n
  | some chars =>
    let word := String.ofList chars
    match s.names.find? (·.1 = word) with
    | some (_, earlier) =>
      Reading.fail ("redefinition of group name " ++ Text.display word ++ " as group " ++
        toString n ++ "; was group " ++ toString earlier) (chars.length + 1)
    | none =>
      set { s with groups := s.groups ++ [none], names := s.names ++ [(word, n)] }
      return n

/-- A reference to a group by its name, after the equals sign. -/
def namedReference : Reading Part := do
  let name ← Reading.takeName ')' "group name"
  checkName name
  let n ← groupOf name
  match ← Reading.closedGroup? n with
  | none => Reading.fail "cannot refer to an open group" (name.length + 1)
  | some w =>
    Reading.checkBehind n
    return .plain w

/-- The group that a condition asks for, after the parenthesis: a name or a number. -/
def condition : Reading Nat := do
  let name ← Reading.takeName ')' "group name"
  if Text.isName name then groupOf name
  else
    let word := Text.trimAscii (Text.numberForm name)
    let bad : Reading Nat := Reading.fail
      ("bad character in group name " ++ Text.display (String.ofList name)) (name.length + 1)
    match Numeral.withoutSeparators? (Numeral.splitSign word).2 with
    | none | some [] => bad
    | some digits =>
      let n := digitsValue digits
      if !digits.all Char.isDigit || digitLimit < digits.length ||
          ((Numeral.splitSign word).1 && n ≠ 0) then bad
      else if n = 0 then Reading.fail "bad group number" (name.length + 1)
      else if Nat.pow 2 30 ≤ n then
        Reading.fail ("invalid group reference " ++ toString n) (name.length + 1)
      else
        let place := (← Reading.place) - name.length - 1
        modify fun s =>
          if s.conditions.any (·.1 = n) then s
          else { s with conditions := s.conditions ++ [(n, place)] }
        return n

/-! ### Flags -/

inductive FlagGroup where
  /-- The flags hold for the whole expression. -/
  | everywhere
  /-- The flags are switched on and off in the group that follows. -/
  | inside (on off : List Flag)

def flagOf? : Token → Option Flag
  | [c] => Flag.ofLetter? c
  | _ => none

def isLetterToken : Token → Bool
  | [c] => Text.isLetter c
  | _ => false

def notFlag {α : Type} (t : Token) (detail : String) : Reading α :=
  Reading.fail (if isLetterToken t then "unknown flag" else detail) t.length

/-- Reads flags that are switched on, the first of them being taken already, and returns the
character after them. -/
def readOn (first : Flag) (on : List Flag) : Nat → Reading (List Flag × Char)
  | 0 => Reading.fail "missing -, : or )" 0
  | fuel + 1 => do
    if first = .localeRules then
      Reading.fail "bad inline flags: cannot use 'L' flag with a str pattern" 0
    let on := if on.contains first then on else on ++ [first]
    if first.isType && on.any (fun f => f.isType && f ≠ first) then
      Reading.fail "bad inline flags: flags 'a', 'u' and 'L' are incompatible" 0
    match ← Reading.take with
    | none => Reading.fail "missing -, : or )" 0
    | some t => match t, flagOf? t with
      | [')'], _ => return (on, ')')
      | ['-'], _ => return (on, '-')
      | [':'], _ => return (on, ':')
      | _, some f => readOn f on fuel
      | t, none => notFlag t "missing -, : or )"

/-- Reads flags that are switched off, the first of them being taken already, up to a colon. -/
def readOff (first : Flag) (off : List Flag) : Nat → Reading (List Flag)
  | 0 => Reading.fail "missing :" 0
  | fuel + 1 => do
    if first.isType then
      Reading.fail "bad inline flags: cannot turn off flags 'a', 'u' and 'L'" 0
    let off := if off.contains first then off else off ++ [first]
    match ← Reading.take with
    | none => Reading.fail "missing :" 0
    | some t => match t, flagOf? t with
      | [':'], _ => return off
      | _, some f => readOff f off fuel
      | t, none => notFlag t "missing :"

/-- Reads flags in a group. The first token is taken already: a flag, or a minus sign. -/
def readFlags (first : Option Flag) : Reading FlagGroup := do
  let fuel := (← get).left.length + 1
  let (on, mark) ← match first with
    | some f => readOn f [] fuel
    | none => pure ([], '-')
  if mark = ')' then
    modify fun s => { s with flags := s.flags ++ on.filter fun f => !s.flags.contains f }
    return .everywhere
  if on.contains .template then
    Reading.fail "bad inline flags: cannot turn on global flag" 1
  let off ← if mark = ':' then pure [] else match ← Reading.take with
    | none => Reading.fail "missing flag" 0
    | some t => match flagOf? t with
      | some f => readOff f [] fuel
      | none => notFlag t "missing flag"
  if off.contains .template then
    Reading.fail "bad inline flags: cannot turn off global flag" 1
  if on.any off.contains then
    Reading.fail "bad inline flags: flag turned on and off" 1
  return .inside on off

/-! ### Expressions -/

inductive Opening where
  /-- A group that may be referred to. -/
  | capture (name : Option (List Char))
  /-- A group that may not. -/
  | group (on off : List Flag)
  /-- An assertion about the text ahead or behind. -/
  | assertion (looksBehind : Bool)
  | condition
  /-- A part that is complete. -/
  | part (p : Part)
  /-- A comment. -/
  | nothing
  /-- Flags for the whole expression. -/
  | flags

def skipComment (start : Nat) : Nat → Reading Unit
  | 0 => Reading.fail "missing ), unterminated comment" 0
  | fuel + 1 => do
    if (← Reading.peek).isNone then
      Reading.fail "missing ), unterminated comment" ((← Reading.place) - start)
    match ← Reading.take with
    | some [')'] => return
    | _ => skipComment start fuel

def takeSome : Reading Token := do
  match ← Reading.take with
  | some t => return t
  | none => Reading.fail "unexpected end of pattern" 0

/-- Reads what a parenthesis begins, up to the contents of a group. `start` is the place of the
parenthesis. -/
def readOpening (start : Nat) : Reading Opening := do
  if !(← Reading.accept '?') then return .capture none
  let t ← takeSome
  match t with
  | ['P'] =>
    if ← Reading.accept '<' then
      let name ← Reading.takeName '>' "group name"
      checkName name
      return .capture (some name)
    else if ← Reading.accept '=' then return .part (← namedReference)
    else
      let u ← takeSome
      Reading.fail ("unknown extension ?P" ++ String.ofList u) (u.length + 2)
  | [':'] | ['>'] => return .group [] []
  | ['#'] =>
    skipComment start ((← get).left.length + 1)
    return .nothing
  | ['='] | ['!'] => return .assertion false
  | ['<'] =>
    let u ← takeSome
    if u = ['='] || u = ['!'] then return .assertion true
    else Reading.fail ("unknown extension ?<" ++ String.ofList u) (u.length + 2)
  | ['('] => return .condition
  | t =>
    let first := flagOf? t
    if first.isNone && t ≠ ['-'] then
      Reading.fail ("unknown extension ?" ++ String.ofList t) (t.length + 1)
    else match ← readFlags first with
      | .everywhere => return .flags
      | .inside on off => return .group on off

def closeParenthesis (start : Nat) : Reading Unit := do
  if !(← Reading.accept ')') then
    Reading.fail "missing ), unterminated subpattern" ((← Reading.place) - start)

def skipLine : Nat → Reading Unit
  | 0 => return
  | fuel + 1 => do
    match ← Reading.take with
    | none | some ['\n'] => return
    | _ => skipLine fuel

/-- Is the token white space that a verbose expression passes over? -/
def isVerboseBlank (t : Token) : Bool :=
  t = [' '] || t = ['\t'] || t = ['\n'] || t = ['\r'] || t = [Char.ofNat 11] || t = [Char.ofNat 12]

def groupLimit : Nat := 480

mutual

/-- Reads alternatives. `depth` counts the groups around them. The fuel bounds the tokens. -/
def readChoices (verbose : Bool) (depth : Nat) (earlier : List Part) : Nat → Reading Part
  | 0 => throw .nested
  | fuel + 1 => do
    let parts ← readParts verbose depth (depth = 0 && earlier.isEmpty) [] fuel
    let choices := earlier ++ [Part.row parts]
    if ← Reading.accept '|' then
      let flags := (← get).flags
      readChoices (if depth = 0 then flags.contains .verbose else verbose) depth choices fuel
    else return .choices choices
termination_by structural fuel => fuel

/-- Reads parts in a row and puts them, in reverse, in front of those that are there. `first` says
whether flags for the whole expression may still follow. -/
def readParts (verbose : Bool) (depth : Nat) (first : Bool) (parts : List Part) :
    Nat → Reading (List Part)
  | 0 => throw .nested
  | fuel + 1 => do
    let start ← Reading.place
    match ← Reading.peek with
    | none | some ['|'] | some [')'] => return parts
    | some t =>
      let _ ← Reading.take
      let add (p : Part) : Reading (List Part) := readParts verbose depth first (p :: parts) fuel
      let again (bounds : Nat × Nat) : Reading (List Part) := do
        readParts verbose depth first (← repeatNewest (start + 1) parts bounds) fuel
      if verbose && isVerboseBlank t then readParts verbose depth first parts fuel
      else if verbose && t = ['#'] then
        skipLine ((← get).left.length + 1)
        readParts verbose depth first parts fuel
      else match t with
        | ['\\', c] => match ← escape c with
          | .anchor => add .anchor
          | .group w => add (.plain w)
          | _ => add (.plain .one)
        | ['['] =>
          let _ ← Reading.accept '^'
          readSet start ((← get).left.length + 1) false
          add (.plain .one)
        | ['?'] => again (0, 1)
        | ['*'] => again (0, maxRepeat)
        | ['+'] => again (1, maxRepeat)
        | ['\x7b'] => match ← readBounds (start + 1) with
          | some bounds => again bounds
          | none => add (.plain .one)
        | ['^'] | ['$'] => add .anchor
        | ['('] => match ← readOpening start with
          | .nothing => readParts verbose depth first parts fuel
          | .flags =>
            if !first || !parts.isEmpty then
              Reading.fail "global flags not at the start of the expression"
                ((← Reading.place) - start)
            readParts ((← get).flags.contains .verbose) depth first parts fuel
          | .part p => add p
          | .assertion looksBehind =>
            let outer := (← get).behind
            if looksBehind then
              modify fun s => { s with behind := some (outer.getD s.groups.length) }
            let p ← readGroup verbose depth fuel
            if looksBehind then modify fun s => { s with behind := outer }
            closeParenthesis start
            add (if looksBehind then p.lookingBehind else p.lookingAhead)
          | .condition =>
            Reading.checkBehind (← condition)
            add (← readBranches verbose depth start fuel)
          | .group on off =>
            let inner := (verbose || on.contains .verbose) && !off.contains .verbose
            let p ← readGroup inner depth fuel
            closeParenthesis start
            add p
          | .capture name =>
            let n ← openGroup name
            let p ← readGroup verbose depth fuel
            closeParenthesis start
            modify fun s => { s with groups := s.groups.set n (some p.width) }
            add p
        | _ => add (.plain .one)
termination_by structural fuel => fuel

def readGroup (verbose : Bool) (depth : Nat) : Nat → Reading Part
  | 0 => throw .nested
  | fuel + 1 =>
    if groupLimit < depth then throw .nested else readChoices verbose (depth + 1) [] fuel
termination_by structural fuel => fuel

def readBranches (verbose : Bool) (depth start : Nat) : Nat → Reading Part
  | 0 => throw .nested
  | fuel + 1 => do
    let yes := Part.row (← readParts verbose (depth + 1) false [] fuel)
    if ← Reading.accept '|' then
      let no := Part.row (← readParts verbose (depth + 1) false [] fuel)
      if (← Reading.peek) = some ['|'] then
        Reading.fail "conditional backref with more than two branches" 0
      closeParenthesis start
      return .choices [yes, no]
    else
      closeParenthesis start
      return yes.optional
termination_by structural fuel => fuel

end

/-! ### Texts -/

def readAll : Reading (List Flag) := do
  let s ← get
  if s.left.isEmpty && s.endsOpen then throw (.placed "bad escape (end of pattern)" (s.length - 1))
  let whole ← readChoices false 0 [] (4 * s.left.length + 4)
  let s ← get
  if s.flags.contains .ascii && s.flags.contains .unicode then throw .incompatibleFlags
  if !s.left.isEmpty then Reading.fail "unbalanced parenthesis" 0
  match s.conditions.find? fun c => s.groups.length ≤ c.1 with
  | some (n, place) => throw (.placed ("invalid group reference " ++ toString n) place)
  | none =>
    match whole.defect with
    | some defect => throw (.defective defect)
    | none => if Part.reachLimit < whole.reach then throw .reachTooLong else return s.flags

/-- The flags that a regular expression switches on for all of it. -/
def read (text : String) : Except Flaw (List Flag) := do
  let (flags, _) ← readAll.run (.ofText text.toList)
  return flags

/-- The names of the flags of a regular expression, in the order in which they are shown. The flag
for all characters is left out. -/
def flagNames (text : String) : List String :=
  match read text with
  | .ok flags => (Flag.all.filter fun f => flags.contains f && f ≠ .unicode).map (·.name)
  | .error _ => []

end Conformance.Regex
