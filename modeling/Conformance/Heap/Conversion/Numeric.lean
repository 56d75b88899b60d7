import Conformance.Fault
import Conformance.Heap.Display

/-!
# Conversions to numbers

The integer, the double and the complex number that a value is converted to. Numbers are converted
by their exact value, and texts are read: digits of every script count, blanks may surround a
number, and single underscores may stand between digits. Byte strings are read as ASCII.
-/

namespace Conformance

/-! ### Texts of numbers -/

def byteChars (content : List UInt8) : List Char := content.map fun b => Char.ofNat b.toNat

/-- The integer in a text that is `shown` in faults: blanks, a sign and digits, which underscores
may separate, and blanks. -/
def readInteger (shown : String) (text : List Char) : Except Fault Int :=
  let (negative, body) := Numeral.splitSign (text.dropWhile Text.isAsciiSpace)
  let run := body.takeWhile fun c => c.isDigit || c = '_'
  let rest := body.dropWhile fun c => c.isDigit || c = '_'
  match Numeral.withoutSeparators? run with
  | none | some [] => .error (.conversion (.integerUnreadable shown))
  | some digits =>
    if digitLimit < digits.length then .error (.conversion (.integerTooLong digits.length))
    else if rest.all Text.isAsciiSpace then
      .ok (if negative then -(digitsValue digits : Int) else digitsValue digits)
    else .error (.conversion (.integerUnreadable shown))

/-- The double in a text that is `shown` in faults. The tag serves a value that is no number. -/
def readDouble (tag : Nat) (shown : String) (text : List Char) : Except Fault Double :=
  match (Numeral.withoutSeparators? (Text.trimAscii text)).bind (Double.parse? tag) with
  | some x => .ok x
  | none => .error (.conversion (.doubleUnreadable shown))

/-- The complex number at the front of a text, and what follows it: a real part, an imaginary part
followed by a letter `j`, or both. A sign may stand for a unit. -/
def splitComplex? (text : List Char) : Option ((Double × Double) × List Char) :=
  let unit (negative : Bool) : Double := Double.ofRatio negative 1 1
  match Double.read? 0 text with
  | none =>
    let (negative, rest) := Numeral.splitSign text
    (afterUnit? rest).map ((.zero false, unit negative), ·)
  | some (x, rest) =>
    if startsSigned rest then
      let (y, rest) := (Double.read? 0 rest).getD
        (unit (Numeral.splitSign rest).1, (Numeral.splitSign rest).2)
      (afterUnit? rest).map ((x, y), ·)
    else match afterUnit? rest with
      | some rest => some ((.zero false, x), rest)
      | none => some ((x, .zero false), rest)
where
  /-- What follows the letter that marks an imaginary part. -/
  afterUnit? (text : List Char) : Option (List Char) :=
    match text with
    | c :: rest => if c = 'j' ∨ c = 'J' then some rest else none
    | [] => none
  /-- Does a sign follow? -/
  startsSigned (text : List Char) : Bool := text.head? = some '+' || text.head? = some '-'

/-- The complex number in a text without underscores. Parentheses may enclose it. -/
def parseComplex? (text : List Char) : Option (Double × Double) :=
  match text.dropWhile Text.isAsciiSpace with
  | '(' :: inner => match splitComplex? (inner.dropWhile Text.isAsciiSpace) with
    | some (z, rest) => match rest.dropWhile Text.isAsciiSpace with
      | ')' :: rest => if rest.all Text.isAsciiSpace then some z else none
      | _ => none
    | none => none
  | body => match splitComplex? body with
    | some (z, rest) => if rest.all Text.isAsciiSpace then some z else none
    | none => none

/-- The complex number in a text that is `shown` in faults. -/
def readComplex (shown : String) (text : List Char) : Except Fault (Double × Double) :=
  match Numeral.withoutSeparators? text with
  | none => .error (.conversion (.separatorMisplaced shown))
  | some plain => match parseComplex? plain with
    | some z => .ok z
    | none => .error (.conversion .complexUnreadable)

def shortened (shown : String) : String := String.ofList (shown.toList.take 200)

def integerOfText (s : String) : Except Fault Int :=
  readInteger (shortened (Text.display s)) (Text.numberForm s.toList)

/-- The double that a text is converted to. The tag serves a value that is no number. -/
def doubleOfText (tag : Nat) (s : String) : Except Fault Double :=
  readDouble tag (Text.display s) (Text.numberForm s.toList)

namespace Heap

/-! ### Integers -/

/-- A number without its fraction, for a value that has no imaginary part. There is no memory for an
integer whose digits go beyond the limit of memory. -/
def wholePart (v : Value) : Exact → Except Fault Exact
  | .infinite _ => .error (.conversion (.unboundedNumber (match v with
    | .decimal _ => "Infinity"
    | _ => "float infinity")))
  | .nan => .error (.conversion (.noWholeNumber (match v with
    | .decimal _ => "NaN"
    | _ => "float NaN")))
  | .finite s c e =>
    if c ≠ 0 ∧ (memoryLimit : Int) ≤ e then .error (.conversion .outOfMemory)
    else .ok (Exact.finite s c e).truncate

/-- The integer that a value is converted to. A byte string is shown up to two hundred bytes. -/
def toInteger (h : Heap) (v : Value) : Except Fault Exact :=
  match v, v.number?, v.text?, h.byteContent? v with
  | .complex _ _, _, _, _ => .error (.conversion (.notIntegral (h.fullTypeName v)))
  | v, some x, _, _ => wholePart v x.re
  | _, none, some s, _ => do return .ofInt (← integerOfText s)
  | _, none, none, some content => do
    return .ofInt (← readInteger (shortened (Text.displayBytes (content.take 200)))
      (byteChars content))
  | v, none, none, none => .error (.conversion (.notIntegral (h.fullTypeName v)))

/-! ### Doubles -/

def doubleOfInt (n : Int) : Except Fault Double :=
  match Double.ofInt? n with
  | some x => .ok x
  | none => .error (.conversion .doubleTooSmall)

def doubleOfDecimal : Decimal → Except Fault Double
  | .finite negative c e => .ok (.ofScientific negative c e)
  | .infinite negative => .ok (.infinity negative)
  | .nan signaling _ _ tag =>
    if signaling then .error (.conversion .noDouble) else .ok (.quietNaN tag)

def numberToDouble? : Value → Option (Except Fault Double)
  | .bool b => some (doubleOfInt (if b then 1 else 0))
  | .int n | .boxed (.int n) => some (doubleOfInt n)
  | .float x | .boxed (.float x) => some (.ok x)
  | .decimal d => some (doubleOfDecimal d)
  | _ => none

def toDouble (h : Heap) (v : Value) : Except Fault Double :=
  match numberToDouble? v, v.text?, h.byteContent? v with
  | some x, _, _ => x
  | none, some s, _ => doubleOfText 0 s
  | none, none, some content => do readDouble 0 (← h.display v) (byteChars content)
  | none, none, none => .error (.conversion (.notReal (h.fullTypeName v)))

/-! ### Complex numbers -/

def toComplex (h : Heap) (v : Value) : Except Fault (Double × Double) :=
  match v, numberToDouble? v, v.text? with
  | .complex re im, _, _ => .ok (re, im)
  | _, some x, _ => do return (← x, .zero false)
  | _, none, some s => readComplex (Text.display s) (Text.numberForm s.toList)
  | v, none, none => .error (.conversion (.notComplex (h.fullTypeName v)))

end Heap
end Conformance
