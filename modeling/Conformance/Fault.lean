import Conformance.Conversion.Flaw
import Conformance.Heap.Basic
import Conformance.Regex.Flaw
import Conformance.Text.Display

/-!
# Faults

The causes for which an operation ends without a verdict. A fault is never a property of the value
being checked: it says that a pattern is malformed, that a predicate failed, that a text cannot be
written, or that an object was used in a way it does not allow.
-/

namespace Conformance

/-- Why a pattern is malformed. Texts that the cause depends on are kept as they will be shown. -/
inductive PatternFlaw where
  /-- A list that stands for an array pattern has not exactly one element. -/
  | elementCount (shown : String)
  | fieldsNotMapping (typeName : String)
  | fieldNameNotText (shown : String)
  | unknownTypeTag (shown : String)
  | noChoices
  | notCallable
  | unknownType (typeName : String)
  /-- A flaw that somebody else has worded. -/
  | stated (detail : String)
deriving DecidableEq

def PatternFlaw.detail : PatternFlaw → String
  | elementCount shown => "arrays must have one type element " ++ shown
  | fieldsNotMapping t => "expected a mapping of field patterns, got " ++ t
  | fieldNameNotText shown => "field names must be strings, got " ++ shown
  | unknownTypeTag shown => "unknown type tag " ++ shown
  | noChoices => "OneOf needs at least one choice"
  | notCallable => "Where needs a callable predicate"
  | unknownType t => "unknown pattern type " ++ t
  | stated detail => detail

def patternMessage (detail : String) : String := "Bad pattern: " ++ detail

inductive Fault where
  | badPattern (flaw : PatternFlaw)
  /-- An integer has too many digits to be written. -/
  | digitLimit
  /-- Objects, patterns or predicates are nested too deeply. -/
  | nestingLimit
  /-- A document would contain itself. -/
  | circular
  | notEncodable (typeName : String)
  | keyNotEncodable (typeName : String)
  | unhashable (typeName : String)
  /-- The operand of a class pattern is neither a class nor a collection of classes. -/
  | notClass
  /-- The operand of a class pattern is a list type with an element class. -/
  | parameterizedClass
  /-- A field pair has not exactly two items. -/
  | pairLength (index length : Nat)
  /-- A field pair has no items at all. -/
  | pairNotSequence (index : Nat)
  /-- An exception that a predicate was told to raise. -/
  | raised (kind : ExceptionKind) (message : String)
  | frozenField (deleting : Bool) (name : String)
  | unexpectedArgument (owner name : String)
  | notReplaceable
  | notCallable (typeName : String)
  | noLength (typeName : String)
  | tooFewArguments
  | tooManyArguments
  | argumentNotNumber (directive : Char) (typeName : String)
  | argumentNotInteger (directive : Char) (typeName : String)
  | argumentNotDouble (typeName : String)
  | argumentNotCharacter
  | noSuchCharacter
  /-- A width or a precision that is given as an argument is no integer. -/
  | sizeNotInteger
  | sizeTooBig (noun : String)
  | precisionTooLarge
  | formatNeedsMapping
  | formatKeyMissing (shown : String)
  | formatKeyIncomplete
  | formatIncomplete
  | formatUnsupported (directive : Char) (index : Nat)
  | unknownLevel (level : String)
  | reservedExtra (name : String)
  | noItemAssignment (typeName : String)
  | noItemDeletion (typeName : String)
  /-- An item cannot be removed by index. -/
  | noIndexDeletion (typeName : String)
  | noAttribute (typeName name : String)
  /-- An attribute of a fixed class was to be changed. -/
  | fixedClass (className name : String)
  | noClassAttribute (className name : String)
  | keyMissing (shown : String)
  | indexOutOfRange (owner : String)
  /-- An index is no integer. The noun says what was indexed. -/
  | indexNotInteger (noun typeName : String)
  /-- An index into a double-ended queue is no integer. -/
  | placeNotInteger (typeName : String)
  /-- An index is too great for any sequence. -/
  | indexTooGreat (typeName : String)
  | readOnlyMemory
  /-- A method of a class was called on an object of another class. -/
  | methodMisapplied (method owner typeName : String)
  /-- A method of a class was called on an object alone. -/
  | methodArgumentMissing (method : String)
  /-- A decimal number that refuses to be compared was compared. -/
  | incomparable
  | signalingHash
  /-- A class makes nothing of its arguments. -/
  | conversion (flaw : ConversionFlaw)
  /-- A text is no regular expression. -/
  | notRegex (text : String) (flaw : Regex.Flaw)
  /-- The text of a class that stands where a level is wanted. -/
  | levelNotAccepted (shown : String)
  | levelNotInteger
  /-- A time that no calendar date can be given for. -/
  | timeTooFar
  | timeTooLarge
  | yearTooLarge
deriving DecidableEq

/-- How deeply objects, patterns and predicates may be nested. -/
def nestingLimit : Nat := 1000

namespace Fault

def ofException : ExceptionKind → String
  | .valueError => "ValueError"
  | .typeError => "TypeError"
  | .keyError => "KeyError"
  | .runtimeError => "RuntimeError"
  | .patternError => "PatternError"

def kind : Fault → String
  | badPattern _ => "PatternError"
  | nestingLimit => "RecursionError"
  | digitLimit | circular | pairLength _ _ | formatKeyIncomplete | formatIncomplete
  | formatUnsupported _ _ | unknownLevel _ | sizeTooBig _ => "ValueError"
  | raised k _ => ofException k
  | frozenField _ _ => "FrozenInstanceError"
  | noSuchCharacter | precisionTooLarge | timeTooLarge | yearTooLarge => "OverflowError"
  | timeTooFar => "OSError"
  | reservedExtra _ | keyMissing _ | formatKeyMissing _ => "KeyError"
  | indexOutOfRange _ | indexTooGreat _ => "IndexError"
  | noAttribute _ _ | noClassAttribute _ _ => "AttributeError"
  | incomparable => "InvalidOperation"
  | conversion flaw => flaw.kind
  | notRegex _ flaw => flaw.kind
  | _ => "TypeError"

/-- The message of an exception. A missing key is shown as diagnostics show it. -/
def exceptionMessage : ExceptionKind → String → String
  | .keyError, m => Text.display m
  | .patternError, m => patternMessage m
  | _, m => m

/-- The wording of a fault; a nesting fault has none. -/
def message? : Fault → Option String
  | badPattern flaw => some (patternMessage flaw.detail)
  | nestingLimit => none
  | digitLimit => some
      ("Exceeds the limit (4300 digits) for integer string conversion; " ++
        "use sys.set_int_max_str_digits() to increase the limit")
  | circular => some "Circular reference detected"
  | notEncodable t => some ("Object of type " ++ t ++ " is not JSON serializable")
  | keyNotEncodable t => some ("keys must be str, int, float, bool or None, not " ++ t)
  | unhashable t => some ("unhashable type: '" ++ t ++ "'")
  | notClass => some "isinstance() arg 2 must be a type, a tuple of types, or a union"
  | parameterizedClass => some "isinstance() argument 2 cannot be a parameterized generic"
  | pairLength i n => some
      ("dictionary update sequence element #" ++ toString i ++ " has length " ++ toString n ++
        "; 2 is required")
  | pairNotSequence i => some
      ("cannot convert dictionary update sequence element #" ++ toString i ++ " to a sequence")
  | raised k m => some (exceptionMessage k m)
  | frozenField deleting name => some
      ("cannot " ++ (if deleting then "delete" else "assign to") ++ " field " ++ Text.display name)
  | unexpectedArgument owner name => some
      (owner ++ ".__init__() got an unexpected keyword argument " ++ Text.display name)
  | notReplaceable => some "replace() should be called on dataclass instances"
  | notCallable t => some ("'" ++ t ++ "' object is not callable")
  | noLength t => some ("object of type '" ++ t ++ "' has no len()")
  | tooFewArguments => some "not enough arguments for format string"
  | tooManyArguments => some "not all arguments converted during string formatting"
  | argumentNotNumber d t => some
      ("%" ++ d.toString ++ " format: a real number is required, not " ++ t)
  | argumentNotInteger d t => some
      ("%" ++ d.toString ++ " format: an integer is required, not " ++ t)
  | argumentNotDouble t => some ("must be real number, not " ++ t)
  | argumentNotCharacter => some "%c requires int or char"
  | noSuchCharacter => some "%c arg not in range(0x110000)"
  | sizeNotInteger => some "* wants int"
  | sizeTooBig noun => some (noun ++ " too big")
  | precisionTooLarge => some "precision too large"
  | formatNeedsMapping => some "format requires a mapping"
  | formatKeyMissing shown => some shown
  | formatKeyIncomplete => some "incomplete format key"
  | formatIncomplete => some "incomplete format"
  | formatUnsupported c i => some
      ("unsupported format character '" ++
        (if 31 ≤ c.toNat ∧ c.toNat ≤ 126 then c else '?').toString ++ "' (0x" ++
        String.ofList (Nat.toDigits 16 c.toNat) ++ ") at index " ++ toString i)
  | unknownLevel level => some ("Unknown level: " ++ Text.display level)
  | reservedExtra name => some
      (Text.display ("Attempt to overwrite " ++ Text.display name ++ " in LogRecord"))
  | noItemAssignment t => some ("'" ++ t ++ "' object does not support item assignment")
  | noItemDeletion t => some ("'" ++ t ++ "' object does not support item deletion")
  | noIndexDeletion t => some ("'" ++ t ++ "' object doesn't support item deletion")
  | noAttribute t name => some
      ("'" ++ t ++ "' object has no attribute " ++ Text.display name)
  | fixedClass c name => some
      ("cannot set " ++ Text.display name ++ " attribute of immutable type '" ++ c ++ "'")
  | noClassAttribute c name => some
      ("type object '" ++ c ++ "' has no attribute " ++ Text.display name)
  | keyMissing shown => some shown
  | indexOutOfRange owner => some (owner ++ " index out of range")
  | indexNotInteger noun t => some (noun ++ " indices must be integers or slices, not " ++ t)
  | placeNotInteger t => some ("sequence index must be integer, not '" ++ t ++ "'")
  | indexTooGreat t => some ("cannot fit '" ++ t ++ "' into an index-sized integer")
  | readOnlyMemory => some "cannot modify read-only memory"
  | methodMisapplied method owner t => some
      ("descriptor '" ++ method ++ "' for '" ++ owner ++ "' objects doesn't apply to a '" ++ t ++
        "' object")
  | methodArgumentMissing method => some (method ++ "() takes exactly one argument (0 given)")
  | incomparable => some "[<class 'decimal.InvalidOperation'>]"
  | signalingHash => some "Cannot hash a signaling NaN value"
  | conversion flaw => some flaw.message
  | notRegex text flaw => flaw.message? text
  | levelNotAccepted shown => some ("Level not an integer or a valid string: " ++ shown)
  | levelNotInteger => some "level must be an integer"
  | timeTooFar => some "[Errno 75] Value too large for defined data type"
  | timeTooLarge => some "timestamp out of range for platform time_t"
  | yearTooLarge => some "signed integer is greater than maximum"

end Fault
end Conformance
