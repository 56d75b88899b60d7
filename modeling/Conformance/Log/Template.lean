import Conformance.Heap.Container
import Conformance.Heap.Conversion.Bytes
import Conformance.Heap.Conversion.Numeric
import Conformance.Number.Rounded

/-!
# Message templates

A template is a text with directives. A directive begins with a percent sign, and may then hold a
key in parentheses, flags, a width and a precision, before the letter that says how its argument is
written. Directives take arguments in order; with a single mapping as argument they may name its
keys. A star takes a width or a precision from the arguments. Without arguments a template stands
for itself. A dictionary that has a value for every key stores those that a template asks for.
-/

namespace Conformance.Template

/-! ### Arguments -/

/-- A step of filling a template. A fault ends it, but what was stored in the heap stays there. -/
abbrev Filling := ExceptT Fault (StateM Heap)

section Filling

variable {α β : Type} {h h' : Heap} {a : α}

theorem run_bind_of_ok {x : Filling α} {f : α → Filling β} (hx : x.run.run h = (.ok a, h')) :
    (x >>= f).run.run h = (f a).run.run h' := by
  rw [ExceptT.run_bind, StateT.run_bind, hx]
  rfl

theorem run_get : (get : Filling Heap).run.run h = (.ok h, h) := rfl

theorem run_lift {x : Except Fault α} (hx : x = .ok a) :
    (liftM x : Filling α).run.run h = (.ok a, h) := by
  rw [hx]
  rfl

end Filling

inductive Arguments where
  | positional (args : List Value)
  /-- A mapping, and the argument of the next directive. -/
  | named (mapping : Value) (current : Option Value)

namespace Arguments

/-- The arguments that a list stands for: a single mapping with entries gives names. -/
def ofList (h : Heap) : List Value → Arguments
  | [v] => match h.entries? v with
    | some (_ :: _) => .named v (some v)
    | _ => .positional [v]
  | args => .positional args

/-- The address and the entries of a dictionary that stores an empty list for a missing key. -/
def defaulting? (h : Heap) : Value → Option (Address × List (Value × Value))
  | .ref a => match h.cell a with
    | .dict .defaulting entries => some (a, entries)
    | _ => none
  | _ => none

def valueAt (mapping : Value) (key : List Char) : Filling Value := do
  let h ← get
  let name := Value.str (String.ofList key)
  match ← lookupEntry h.equalPart name ((h.entries? mapping).getD []), defaulting? h mapping with
  | some v, _ => return v
  | none, some (a, entries) =>
    let (h, v) := h.alloc (.sequence .list [])
    set (h.update a (.dict .defaulting (entries ++ [(name, v)])))
    return v
  | none, none => throw (.formatKeyMissing (Text.display (String.ofList key)))

def select (key : List Char) : Arguments → Filling Arguments
  | .positional _ => throw .formatNeedsMapping
  | .named mapping _ => do return .named mapping (some (← valueAt mapping key))

def next : Arguments → Except Fault (Value × Arguments)
  | .positional (v :: rest) => .ok (v, .positional rest)
  | .named mapping (some v) => .ok (v, .named mapping none)
  | _ => .error .tooFewArguments

def isLeft : Arguments → Bool
  | .positional args => !args.isEmpty
  | .named _ _ => false

end Arguments

/-! ### Directives -/

structure Layout where
  flags : List Char
  width : Nat
  precision : Option Nat

namespace Layout

def isFlag (c : Char) : Bool := ['-', '+', ' ', '#', '0'].contains c

def starred (args : Arguments) : Except Fault (Int × Arguments) := do
  let (v, left) ← args.next
  match v.index? with
  | some n => return (n, left)
  | none => .error .sizeNotInteger

def size (noun : String) (limit : Nat) (digits : List Char) : Except Fault Nat :=
  if limit < digitsValue digits then .error (.sizeTooBig noun) else .ok (digitsValue digits)

/-- Reads a width. A negative width of a star asks for filling on the right. -/
def readWidth (flags : List Char) (args : Arguments) :
    List Char → Except Fault (List Char × Nat × Arguments × List Char)
  | '*' :: rest => do
    let (n, left) ← starred args
    if fitsWord n then return (if n < 0 then '-' :: flags else flags, n.natAbs, left, rest)
    else .error (.conversion (.machineTooSmall .size))
  | text => do
    let (digits, rest) := Numeral.splitDigits text
    return (flags, ← size "width" sizeLimit digits, args, rest)

def precisionLimit : Nat := Nat.pow 2 31 - 1

/-- Reads a precision, if there is one. A negative precision of a star stands for zero. -/
def readPrecision (args : Arguments) :
    List Char → Except Fault (Option Nat × Arguments × List Char)
  | '.' :: '*' :: rest => do
    let (n, left) ← starred args
    if (precisionLimit : Int) < n ∨ n < -(precisionLimit : Int) - 1 then
      .error (.conversion (.machineTooSmall .int))
    else return (some n.toNat, left, rest)
  | '.' :: text => do
    let (digits, rest) := Numeral.splitDigits text
    return (some (← size "precision" precisionLimit digits), args, rest)
  | text => .ok (none, args, text)

/-- Reads flags, a width and a precision, and returns what follows. A length letter after them has
no meaning and is passed over. -/
def read (args : Arguments) (text : List Char) :
    Except Fault (Layout × Arguments × List Char) := do
  let (flags, width, args, rest) ← readWidth (text.takeWhile isFlag) args (text.dropWhile isFlag)
  let (precision, args, rest) ← readPrecision args rest
  return (⟨flags, width, precision⟩, args, match rest with
    | c :: tail => if c = 'h' ∨ c = 'l' ∨ c = 'L' then tail else c :: tail
    | [] => [])

def pad (l : Layout) (text : List Char) : List Char :=
  let blanks := List.replicate (l.width - text.length) ' '
  if l.flags.contains '-' then text ++ blanks else blanks ++ text

def ofText (l : Layout) (text : List Char) : List Char :=
  l.pad (match l.precision with
    | some n => text.take n
    | none => text)

/-- The sign of a number: one that the flags ask for stands before a number that is not
negative. -/
def sign (l : Layout) (negative : Bool) : List Char :=
  if negative then ['-']
  else if l.flags.contains '+' then ['+']
  else if l.flags.contains ' ' then [' '] else []

/-- A number, from its sign, the mark of its base and its digits. Zeros fill it up between the mark
and the digits if the flags ask for them. -/
def ofNumber (l : Layout) (negative : Bool) (mark digits : List Char) : List Char :=
  let lead := l.sign negative ++ mark
  if l.flags.contains '0' && !l.flags.contains '-' then
    lead ++ List.replicate (l.width - lead.length - digits.length) '0' ++ digits
  else l.pad (lead ++ digits)

/-- An integer, from its sign, the mark of its base and its digits. The precision is the least
number of digits. -/
def ofInteger (l : Layout) (negative : Bool) (mark digits : List Char) : List Char :=
  l.ofNumber negative mark
    (List.replicate (l.precision.getD 0 - digits.length) '0' ++ digits)

theorem length_pad (l : Layout) (text : List Char) :
    (l.pad text).length = max l.width text.length := by
  simp only [pad]
  split <;> simp only [List.length_append, List.length_replicate] <;> omega

end Layout

/-! ### Letters -/

/-- The number that a decimal directive writes. A string object is read as an integer. -/
def wholeNumber (h : Heap) (letter : Char) (v : Value) : Except Fault Exact :=
  match v, v.number? with
  | .complex _ _, _ => .error (.argumentNotNumber letter (h.fullTypeName v))
  | v, some x => Heap.wholePart v x.re
  | .userStr _, none => h.toInteger v
  | v, none => .error (.argumentNotNumber letter (h.fullTypeName v))

/-- The sign and the decimal digits of a number without a fraction, within the digit limit. -/
def decimalDigits : Exact → Except Fault (Bool × List Char)
  | .finite negative c e =>
    if c = 0 then .ok (false, ['0'])
    else if (digitLimit : Int) < e + (Decimal.digitCount c : Nat) then .error .digitLimit
    else .ok (negative, (toString c).toList ++ List.replicate e.toNat '0')
  | _ => .ok (false, ['0'])

def checkPrecision (l : Layout) : Except Fault Unit :=
  if Layout.precisionLimit - 3 < l.precision.getD 0 then .error .precisionTooLarge else .ok ()

/-- An integer in base eight or sixteen. The alternate form shows the base. -/
def inBase (h : Heap) (l : Layout) (letter : Char) (v : Value) : Except Fault (List Char) :=
  match v.index? with
  | none => .error (.argumentNotInteger letter (h.fullTypeName v))
  | some n => do
    checkPrecision l
    let digits := Nat.toDigits (if letter = 'o' then 8 else 16) n.natAbs
    let mark := if l.flags.contains '#' then ['0', letter] else []
    return l.ofInteger (n < 0) mark (if letter = 'X' then digits.map Char.toUpper else digits)

def realNumber (h : Heap) (v : Value) : Except Fault Double :=
  match Heap.numberToDouble? v, v with
  | some x, _ => x
  | none, .userStr _ => h.toDouble v
  | none, v => .error (.argumentNotDouble (h.fullTypeName v))

/-- A double in one of the forms for them; six digits follow the point unless a precision is given.
An upper-case letter asks for upper-case letters. -/
def inForm (h : Heap) (l : Layout) (form : DoubleForm) (letter : Char) (v : Value) :
    Except Fault (List Char) := do
  let x ← realNumber h v
  let text := form.write (l.flags.contains '#') (l.precision.getD 6) x
  return l.ofNumber (x.negative && x.view ≠ .nan) []
    (if letter.isUpper then text.map Char.toUpper else text)

def character (v : Value) : Except Fault Char :=
  match v.string?, v.index? with
  | some s, _ => match s.toList with
    | [c] => .ok c
    | _ => .error .argumentNotCharacter
  | none, some n =>
    if 0 ≤ n ∧ n < 0x110000 then .ok (Char.ofNat n.toNat) else .error .noSuchCharacter
  | none, none => .error .argumentNotCharacter

/-- The text that a directive makes of an argument, if the directive exists. -/
def convert? (h : Heap) (l : Layout) (letter : Char) (v : Value) :
    Option (Except Fault (List Char)) :=
  match letter with
  | 's' => some do return l.ofText (← h.text v).toList
  | 'r' => some do return l.ofText (← h.display v).toList
  | 'a' => some do return l.ofText (Text.escapeBeyondAscii (← h.display v).toList)
  | 'd' | 'i' | 'u' => some do
    let (negative, digits) ← decimalDigits (← wholeNumber h letter v)
    checkPrecision l
    return l.ofInteger negative [] digits
  | 'o' | 'x' | 'X' => some (inBase h l letter v)
  | 'e' | 'E' => some (inForm h l .scientific letter v)
  | 'f' | 'F' => some (inForm h l .fixed letter v)
  | 'g' | 'G' => some (inForm h l .general letter v)
  | 'c' => some do return l.pad [← character v]
  | _ => none

/-- Selects the argument that a key in parentheses names, if the directive has a key, and returns
what follows. Parentheses inside a key are matched in pairs. -/
def takeKey (args : Arguments) : List Char → Filling (Arguments × List Char)
  | '(' :: rest => match args with
    | .positional _ => throw .formatNeedsMapping
    | .named _ _ => match splitKey 0 rest with
      | some (key, tail) => do return (← args.select key, tail)
      | none => throw .formatKeyIncomplete
  | rest => return (args, rest)
where
  /-- Splits a text at the parenthesis that closes `depth` others and one more. -/
  splitKey : Nat → List Char → Option (List Char × List Char)
    | _, [] => none
    | 0, ')' :: rest => some ([], rest)
    | depth, c :: rest =>
      let inner := if c = '(' then depth + 1 else if c = ')' then depth - 1 else depth
      (splitKey inner rest).map fun (key, tail) => (c :: key, tail)

/-! ### Templates -/

/-- Fills the directives of a text. `length` is the length of the whole template. The fuel bounds
the number of characters. -/
def fill (length : Nat) : Nat → List Char → Arguments → Filling (List Char)
  | 0, _, _ => throw .formatIncomplete
  | _ + 1, [], args => if args.isLeft then throw .tooManyArguments else return []
  | fuel + 1, '%' :: '%' :: rest, args => do return '%' :: (← fill length fuel rest args)
  | fuel + 1, '%' :: rest, args => do
    let (args, rest) ← takeKey args rest
    let (layout, args, rest) ← Layout.read args rest
    match rest with
    | [] => throw .formatIncomplete
    | letter :: tail => do
      let (v, left) ← args.next
      match convert? (← get) layout letter v with
      | some text => do
        let written ← text
        if memoryLimit ≤ layout.width then throw (.conversion .outOfMemory)
        else return written ++ (← fill length fuel tail left)
      | none => throw (.formatUnsupported letter (length - tail.length - 1))
  | fuel + 1, c :: rest, args => do return c :: (← fill length fuel rest args)

def message (template : String) (args : List Value) : Filling String :=
  if args.isEmpty then return template
  else do
    let text := template.toList
    return String.ofList (← fill text.length (text.length + 1) text (.ofList (← get) args))

theorem message_nil (template : String) : message template [] = pure template := rfl

theorem fill_plain (length fuel : Nat) {plain : List Char} (rest : List Char) (args : Arguments)
    (hplain : '%' ∉ plain) :
    fill length (fuel + plain.length) (plain ++ rest) args =
      (plain ++ ·) <$> fill length fuel rest args := by
  induction plain with
  | nil => exact (id_map _).symm
  | cons c plain ih =>
    have hrest : '%' ∉ plain := fun h => hplain (List.mem_cons_of_mem c h)
    have hstep : fill length (fuel + plain.length + 1) (c :: (plain ++ rest)) args = (do
        return c :: (← fill length (fuel + plain.length) (plain ++ rest) args)) := by
      rw [fill]
      · rintro tail rfl
        exact fun _ => hplain List.mem_cons_self
      · rintro rfl
        exact hplain List.mem_cons_self
    have hfuel : fuel + (c :: plain).length = fuel + plain.length + 1 := rfl
    rw [hfuel, List.cons_append, hstep, ih hrest]
    simp

theorem fill_text (h : Heap) (length fuel : Nat) (s : String) :
    (fill length (fuel + 2) ['%', 's'] (.positional [.str s])).run.run h = (.ok s.toList, h) := by
  have hfill : (fill length (fuel + 2) ['%', 's'] (.positional [.str s])).run.run h =
      (.ok (List.replicate (0 - s.toList.length) ' ' ++ s.toList ++ []), h) := rfl
  rw [hfill, Nat.zero_sub, List.replicate_zero, List.nil_append, List.append_nil]

/-- A text takes the place of a directive at the end of a template, whatever characters it has. -/
theorem message_text (h : Heap) {plain : String} (hplain : '%' ∉ plain.toList) (s : String) :
    (message (plain ++ "%s") [.str s]).run.run h = (.ok (plain ++ s), h) := by
  have htext : (plain ++ "%s").toList = plain.toList ++ ['%', 's'] := String.toList_append
  have hlength : (plain.toList ++ ['%', 's']).length + 1 = 3 + plain.toList.length := by
    simp only [List.length_append, List.length_cons, List.length_nil]
    omega
  have hmessage : message (plain ++ "%s") [.str s] = (do
      return String.ofList (← fill (plain ++ "%s").toList.length ((plain ++ "%s").toList.length + 1)
        (plain ++ "%s").toList (.positional [.str s]))) := rfl
  have hfill : ((plain.toList ++ ·) <$> fill (plain.toList ++ ['%', 's']).length 3 ['%', 's']
      (.positional [.str s])).run.run h = (.ok (plain.toList ++ s.toList), h) := by
    rw [map_eq_pure_bind, run_bind_of_ok (fill_text h _ 1 s)]
    rfl
  rw [hmessage, htext, hlength, fill_plain _ _ _ _ hplain, run_bind_of_ok hfill,
    String.ofList_append, String.ofList_toList, String.ofList_toList]
  rfl

end Conformance.Template
