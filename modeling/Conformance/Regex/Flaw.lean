import Conformance.Number.Numeral

/-!
# Flags and flaws of regular expressions

The flags that a regular expression may switch on in its own text, and the causes for which a text
is no regular expression.
-/

namespace Conformance.Regex

inductive Flag where
  | template | ignoreCase | localeRules | multiline | dotAll | unicode | verbose | ascii
deriving DecidableEq, Repr

namespace Flag

/-- All flags, in the order in which they are shown. -/
def all : List Flag :=
  [template, ignoreCase, localeRules, multiline, dotAll, unicode, verbose, ascii]

def letter : Flag → Char
  | template => 't'
  | ignoreCase => 'i'
  | localeRules => 'L'
  | multiline => 'm'
  | dotAll => 's'
  | unicode => 'u'
  | verbose => 'x'
  | ascii => 'a'

def name : Flag → String
  | template => "re.TEMPLATE"
  | ignoreCase => "re.IGNORECASE"
  | localeRules => "re.LOCALE"
  | multiline => "re.MULTILINE"
  | dotAll => "re.DOTALL"
  | unicode => "re.UNICODE"
  | verbose => "re.VERBOSE"
  | ascii => "re.ASCII"

def ofLetter? (c : Char) : Option Flag := all.find? (·.letter = c)

theorem ofLetter?_letter (f : Flag) : ofLetter? f.letter = some f := by cases f <;> rfl

/-- Does the flag choose the classes of characters? Only one such flag may be on. -/
def isType : Flag → Bool
  | ascii | localeRules | unicode => true
  | _ => false

end Flag

/-- How much of the text a repetition takes: as much as it can, as little, or as much without ever
giving back. -/
inductive Greed where
  | most | least | all
deriving DecidableEq, Repr

def Greed.name : Greed → String
  | most => "MAX_REPEAT"
  | least => "MIN_REPEAT"
  | all => "POSSESSIVE_REPEAT"

/-- What a part of an expression cannot be, although it follows the grammar. -/
inductive Defect where
  /-- The part repeats, which the flag for templates rules out. -/
  | repeatsInTemplate (greed : Greed)
  /-- The part looks behind over a width that varies. -/
  | widthVaries
deriving DecidableEq, Repr

def Defect.message : Defect → String
  | repeatsInTemplate greed => "internal: unsupported template operator " ++ greed.name
  | widthVaries => "look-behind requires fixed-width pattern"

inductive Flaw where
  /-- The expression is wrong at a place. -/
  | placed (detail : String) (place : Nat)
  /-- A part of the expression has a defect. -/
  | defective (defect : Defect)
  /-- An assertion looks further behind than can be told. -/
  | reachTooLong
  | repetitionTooLarge
  /-- A bound of a repetition has too many digits to be read. -/
  | boundTooLong (digits : Nat)
  | incompatibleFlags
  /-- Groups are nested too deeply. -/
  | nested
deriving DecidableEq, Repr

namespace Flaw

def kind : Flaw → String
  | placed _ _ | defective _ => "error"
  | reachTooLong => "RuntimeError"
  | repetitionTooLarge => "OverflowError"
  | boundTooLong _ | incompatibleFlags => "ValueError"
  | nested => "RecursionError"

/-- The line and the column of a place, both counted from one. -/
def lineAndColumn (text : List Char) (place : Nat) : Nat × Nat :=
  let before := text.take place
  (before.count '\n' + 1, (before.reverse.takeWhile (· ≠ '\n')).length + 1)

/-- The wording of a flaw in a text. The line is told if there are several. -/
def message? (text : String) : Flaw → Option String
  | placed detail place =>
    let (line, column) := lineAndColumn text.toList place
    some (detail ++ " at position " ++ toString place ++
      (if text.toList.contains '\n' then
        " (line " ++ toString line ++ ", column " ++ toString column ++ ")" else ""))
  | defective defect => some defect.message
  | reachTooLong => some "invalid SRE code"
  | repetitionTooLarge => some "the repetition number is too large"
  | boundTooLong n => some (Numeral.tooLongMessage n)
  | incompatibleFlags => some "ASCII and UNICODE flags are incompatible"
  | nested => none

end Flaw
end Conformance.Regex
