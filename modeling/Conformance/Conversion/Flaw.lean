import Conformance.Calendar
import Conformance.Number.Decimal

/-!
# Flaws of conversions

The causes for which a class makes nothing of its arguments: arguments of the wrong number or type,
texts that cannot be read, and numbers that cannot be held.
-/

namespace Conformance

inductive DecimalPartsFlaw where
  | length | sign | digits | word | exponent
deriving DecidableEq, Repr

def DecimalPartsFlaw.message : DecimalPartsFlaw → String
  | length => "argument must be a sequence of length 3"
  | sign => "sign must be an integer with the value 0 or 1"
  | digits => "coefficient must be a tuple of digits"
  | word => "string argument in the third position must be 'F', 'n' or 'N'"
  | exponent => "exponent must be an integer"

inductive MachineType where
  | int | long | size
deriving DecidableEq, Repr

def MachineType.name : MachineType → String
  | int => "int"
  | long => "long"
  | size => "ssize_t"

inductive ConversionFlaw where
  /-- Arguments are given where none are taken. -/
  | takesNoArguments (callee : String)
  | surplusArguments (callee : String) (expected given : Nat)
  | missingArguments (callee : String) (names : List String)
  /-- A part of a date is not given. -/
  | missingPart (name : String) (position : Nat)
  /-- A date is given more parts than it has. -/
  | surplusParts (noun : String) (expected given : Nat)
  | notZone (typeName : String)
  | typeArguments
  | rangeArguments (given : Nat)
  | notConstructible (className : String)
  | abstractClass (className : String) (methods : List String)
  /-- A class stands where a mapping is wanted. -/
  | unboundKeys (owner : String)
  | notIterable (typeName : String)
  | notIntegral (typeName : String)
  | notReal (typeName : String)
  | notComplex (typeName : String)
  | notIndex (typeName : String)
  | notBytes (typeName target : String)
  | notDecimal (typeName : String)
  | notText (typeName : String)
  | noEncoding
  | noFactory
  | integerUnreadable (shown : String)
  /-- The text of an integer has more digits than are read. -/
  | integerTooLong (digits : Nat)
  | doubleUnreadable (shown : String)
  | separatorMisplaced (shown : String)
  | complexUnreadable
  | decimalUnreadable (flaw : DecimalFlaw)
  | decimalParts (flaw : DecimalPartsFlaw)
  | notLatin (noun : String)
  | calendar (flaw : CalendarFlaw)
  /-- A range with the step zero. -/
  | zeroStep
  /-- A number without an integer part. The word names what the number is. -/
  | noWholeNumber (word : String)
  | unboundedNumber (word : String)
  | doubleTooSmall
  | noDouble
  | machineTooSmall (type : MachineType)
  /-- An integer does not fit into a machine integer with a sign. -/
  | outsideSigned (below : Bool)
  | countTooGreat (typeName : String)
  | negativeCount
  | tooManyBytes
  | notByte (noun : String)
  | outOfMemory
  | pairTooShort (length : Nat)
  | pairTooLong
deriving DecidableEq

namespace ConversionFlaw

def kind : ConversionFlaw → String
  | integerUnreadable _ | integerTooLong _ | doubleUnreadable _ | separatorMisplaced _
  | complexUnreadable | decimalParts _ | notLatin _ | noWholeNumber _ | noDouble
  | negativeCount | notByte _ | pairTooShort _ | pairTooLong | calendar _ | zeroStep =>
    "ValueError"
  | decimalUnreadable _ => "InvalidOperation"
  | unboundedNumber _ | doubleTooSmall | machineTooSmall _ | outsideSigned _ | countTooGreat _
  | tooManyBytes => "OverflowError"
  | outOfMemory => "MemoryError"
  | _ => "TypeError"

/-- Names of arguments: quoted, with commas, and with a conjunction before the last. -/
def listing (names : List String) : String :=
  match names.map fun n => "'" ++ n ++ "'" with
  | [a, b] => a ++ " and " ++ b
  | quoted => ", ".intercalate quoted

/-- The plural ending of a noun that is counted. -/
def plural (n : Nat) : String := if n = 1 then "" else "s"

def message : ConversionFlaw → String
  | takesNoArguments callee => callee ++ " takes no arguments"
  | surplusArguments callee expected given =>
    callee ++ " takes " ++ toString expected ++ " positional argument" ++ plural expected ++
      " but " ++ toString given ++ " were given"
  | missingArguments callee names =>
    callee ++ " missing " ++ toString names.length ++ " required positional argument" ++
      plural names.length ++ ": " ++ listing names
  | missingPart name position =>
    "function missing required argument '" ++ name ++ "' (pos " ++ toString position ++ ")"
  | typeArguments => "type() takes 1 or 3 arguments"
  | surplusParts noun expected given =>
    "function takes at most " ++ toString expected ++ " " ++ noun ++ " (" ++ toString given ++
      " given)"
  | notZone t => "tzinfo argument must be None or of a tzinfo subclass, not type '" ++ t ++ "'"
  | rangeArguments n =>
    "range expected " ++ (if n = 0 then "at least 1 argument" else "at most 3 arguments") ++
      ", got " ++ toString n
  | zeroStep => "range() arg 3 must not be zero"
  | calendar flaw => flaw.message
  | notConstructible c => "cannot create '" ++ c ++ "' instances"
  | abstractClass c methods =>
    "Can't instantiate abstract class " ++ c ++ " with abstract method" ++
      plural methods.length ++ " " ++ ", ".intercalate methods
  | unboundKeys owner => "unbound method " ++ owner ++ ".keys() needs an argument"
  | notIterable t => "'" ++ t ++ "' object is not iterable"
  | notIntegral t =>
    "int() argument must be a string, a bytes-like object or a real number, not '" ++ t ++ "'"
  | notReal t => "float() argument must be a string or a real number, not '" ++ t ++ "'"
  | notComplex t => "complex() first argument must be a string or a number, not '" ++ t ++ "'"
  | notIndex t => "'" ++ t ++ "' object cannot be interpreted as an integer"
  | notBytes t target => "cannot convert '" ++ t ++ "' object to " ++ target
  | notDecimal t => "conversion from " ++ t ++ " to Decimal is not supported"
  | notText t => "can only concatenate str (not \"" ++ t ++ "\") to str"
  | noEncoding => "string argument without an encoding"
  | noFactory => "first argument must be callable or None"
  | integerUnreadable shown => "invalid literal for int() with base 10: " ++ shown
  | integerTooLong digits => Numeral.tooLongMessage digits
  | doubleUnreadable shown => "could not convert string to float: " ++ shown
  | separatorMisplaced shown => "could not convert string to complex: " ++ shown
  | complexUnreadable => "complex() arg is a malformed string"
  | decimalUnreadable .malformed => "[<class 'decimal.ConversionSyntax'>]"
  | decimalUnreadable .outOfRange => "[<class 'decimal.InvalidOperation'>]"
  | decimalParts flaw => flaw.message
  | notLatin noun =>
    "Failed to encode latin1 string when unpickling a " ++ noun ++
      " object. pickle.load(data, encoding='latin1') is assumed."
  | noWholeNumber word | unboundedNumber word => "cannot convert " ++ word ++ " to integer"
  | doubleTooSmall => "int too large to convert to float"
  | noDouble => "cannot convert signaling NaN to float"
  | machineTooSmall t => "Python int too large to convert to C " ++ t.name
  | outsideSigned below =>
    "signed integer is " ++ (if below then "less than minimum" else "greater than maximum")
  | countTooGreat t => "cannot fit '" ++ t ++ "' into an index-sized integer"
  | negativeCount => "negative count"
  | tooManyBytes => "byte string is too large"
  | notByte noun => noun ++ " must be in range(0, 256)"
  | outOfMemory => ""
  | pairTooShort n => "need more than " ++ toString n ++ " value" ++ plural n ++ " to unpack"
  | pairTooLong => "too many values to unpack (expected 2)"

end ConversionFlaw

/-! ### Limits of memory -/

/-- The greatest number of items that a size can count. -/
def sizeLimit : Nat := Nat.pow 2 63 - 1

def fitsWord (n : Int) : Bool := -(sizeLimit : Int) - 1 ≤ n && n ≤ sizeLimit

/-- A number of items for which there is no memory. -/
def memoryLimit : Nat := Nat.pow 2 36

end Conformance
