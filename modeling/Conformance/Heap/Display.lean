import Conformance.Fault
import Conformance.Heap.Kind
import Conformance.Number.Layout
import Conformance.Regex.Parser

/-!
# Displayed values

The form in which diagnostics show a value, and the plain text of a value. Objects are shown with
their parts; an object inside itself is shown as an ellipsis. The display fails when an integer has
too many digits or when objects are nested too deeply.
-/

namespace Conformance

/-! ### Numbers -/

/-- The decimal text of an integer, if it is within the digit limit. -/
def integerText (n : Int) : Except Fault String :=
  if n.natAbs < Nat.pow 10 digitLimit then .ok (toString n) else .error .digitLimit

theorem integerText_of_lt {n : Int} (h : n.natAbs < Nat.pow 10 digitLimit) :
    integerText n = .ok (toString n) := by
  simp only [integerText, h, if_true]

/-- A complex number. The real part is left out when it is a positive zero. -/
def complexText (re im : Double) : String :=
  let write := DoubleLayout.complexPart.write
  if re = Double.zero false then write im ++ "j"
  else
    let mark := if im.negative && im.view ≠ .nan then "" else "+"
    "(" ++ write re ++ mark ++ write im ++ "j)"

def boolText (b : Bool) : String := if b then "True" else "False"

/-! ### Enclosed lists -/

def enclosed (opening closing : String) (items : List String) : String :=
  opening ++ ", ".intercalate items ++ closing

/-- Items as a tuple; a single item is followed by a comma. -/
def tupleText : List String → String
  | [item] => "(" ++ item ++ ",)"
  | items => enclosed "(" ")" items

def SequenceKind.display : SequenceKind → List String → String
  | tuple, items => tupleText items
  | point, [x, y] => "Point(x=" ++ x ++ ", y=" ++ y ++ ")"
  | point, items => enclosed "Point(" ")" items
  | deque, items => "deque(" ++ enclosed "[" "]" items ++ ")"
  | set, [] => "set()"
  | set, items => enclosed "\x7b" "\x7d" items
  | frozenset, [] => "frozenset()"
  | frozenset, items => "frozenset(" ++ enclosed "\x7b" "\x7d" items ++ ")"
  | _, items => enclosed "[" "]" items

/-- A sequence inside itself. A tuple with named items is shown again. -/
def SequenceKind.ellipsis? : SequenceKind → Option String
  | tuple => some "(...)"
  | point => none
  | set => some "set(...)"
  | frozenset => some "frozenset(...)"
  | _ => some "[...]"

def DictKind.display : DictKind → List (String × String) → String
  | ordered, [] => "OrderedDict()"
  | ordered, entries =>
    "OrderedDict(" ++ enclosed "[" "]" (entries.map fun e => enclosed "(" ")" [e.1, e.2]) ++ ")"
  | defaulting, entries => "defaultdict(<class 'list'>, " ++ braces entries ++ ")"
  | defaultless, entries => "defaultdict(None, " ++ braces entries ++ ")"
  | proxy, entries => "mappingproxy(" ++ braces entries ++ ")"
  | _, entries => braces entries
where
  /-- Entries between braces. -/
  braces (entries : List (String × String)) : String :=
    enclosed "\x7b" "\x7d" (entries.map fun e => e.1 ++ ": " ++ e.2)

def DictKind.ellipsis : DictKind → String
  | ordered => "..."
  | defaulting => "defaultdict(<class 'list'>, \x7b...\x7d)"
  | defaultless => "defaultdict(None, \x7b...\x7d)"
  | proxy => "mappingproxy(\x7b...\x7d)"
  | _ => "\x7b...\x7d"

def Class.displayInstance : Class → String
  | exception => "Exception()"
  | valueError => "ValueError()"
  | c => "<" ++ c.name ++ ">"

def Function.display : Function → String
  | noop => "<function " ++ noop.name ++ ">"
  | length => "<built-in function " ++ length.name ++ ">"
  | method => "<built-in method " ++ method.name ++ ">"

/-- Dictionary entries whose keys and values are shown by `render`. -/
def displayEntries (render : Value → Except Fault String) (entries : List (Value × Value)) :
    Except Fault (List (String × String)) :=
  entries.mapM fun e => do return (← render e.1, ← render e.2)

/-! ### Patterns -/

/-- Shows a value inside the objects at the given addresses. -/
abbrev Rendering := List Address → Value → Except Fault String

/-- The active objects inside a pattern, unless the pattern is active itself. -/
def Provenance.enter? (origin : Provenance) (active : List Address) : Option (List Address) :=
  match origin.object? with
  | some a => if active.contains a then none else some (a :: active)
  | none => some active

mutual

/-- A pattern, its operands being shown by `render`. A pattern inside itself is shown as an
ellipsis. -/
def Pattern.displayWith (render : Rendering) (active : List Address) (p : Pattern)
    (origin : Provenance) : Except Fault String :=
  match p, origin.enter? active with
  | _, none => .ok "..."
  | .literal v, some active => do return "Literal(value=" ++ (← render active v) ++ ")"
  | .typeTag o k, _ =>
    .ok ((Pattern.typeTag o k).typeName ++ "(name=" ++ Text.display k.name ++ ")")
  | .instanceOf v, some active => do return "ClassRef(cls=" ++ (← render active v) ++ ")"
  | .arrayOf p, some active => do
    return "ArrayOf(element=" ++
      (← p.displayWith render active (.first origin.parts)) ++ ")"
  | .object u fields, some active => do
    return (Pattern.object u fields).typeName ++ "(fields=" ++
      tupleText (← Pattern.displayFields render active fields origin.parts) ++ ")"
  | .objectWithValues p, some active => do
    return "ObjectWithValues(values=" ++
      (← p.displayWith render active (.first origin.parts)) ++ ")"
  | .wrap o w p, some active => do
    return (Pattern.wrap o w p).typeName ++ "(inner=" ++
      (← p.displayWith render active (.first origin.parts)) ++ ")"
  | .oneOf choices, some active => do
    return "OneOf(choices=" ++
      tupleText (← Pattern.displayChoices render active choices origin.parts) ++ ")"
  | .satisfies v, some active => do return "Where(predicate=" ++ (← render active v) ++ ")"
  | p, _ => .ok (p.typeName ++ "()")
termination_by structural p

def Pattern.displayFields (render : Rendering) (active : List Address)
    (fields : List (String × Pattern)) (origins : List Provenance) :
    Except Fault (List String) :=
  match fields with
  | [] => .ok []
  | (name, p) :: rest => do
    let shown ← p.displayWith render active (.first origins)
    return enclosed "(" ")" [Text.display name, shown] ::
      (← Pattern.displayFields render active rest origins.tail)
termination_by structural fields

def Pattern.displayChoices (render : Rendering) (active : List Address) (choices : List Pattern)
    (origins : List Provenance) : Except Fault (List String) :=
  match choices with
  | [] => .ok []
  | p :: rest => do
    let shown ← p.displayWith render active (.first origins)
    return shown :: (← Pattern.displayChoices render active rest origins.tail)
termination_by structural choices

end

/-! ### Values -/

/-- How many characters of the text of a regular expression are shown. -/
def regexWidth : Nat := 200

namespace Value

def displaySimple : Value → Except Fault String
  | undefined => .ok "Undefined"
  | null => .ok "None"
  | bool b => .ok (boolText b)
  | int n | boxed (.int n) => integerText n
  | float x | boxed (.float x) => .ok (DoubleLayout.diagnostic.write x)
  | str s | boxed (.str s) | userStr s => .ok (Text.display s)
  | range start stop step => do
    let limits := if step = 1 then [start, stop] else [start, stop, step]
    return enclosed "range(" ")" (← limits.mapM integerText)
  | bytes .bytes content => .ok (Text.displayBytes content)
  | bytes .memoryview _ => .ok "<memory>"
  | complex re im => .ok (complexText re im)
  | decimal d => .ok ("Decimal('" ++ d.text ++ "')")
  | datetime m => .ok (enclosed "datetime.datetime(" ")" (m.arguments.map toString))
  | date d => .ok (enclosed "datetime.date(" ")" (d.arguments.map toString))
  | regex text =>
    let shown := String.ofList ((Text.display text).toList.take regexWidth)
    .ok (enclosed "re.compile(" ")" (match Regex.flagNames text with
      | [] => [shown]
      | names => [shown, "|".intercalate names]))
  | classObject c => .ok c.display
  | union c d => .ok (c.memberName ++ " | " ++ d.memberName)
  | listAlias c => .ok ("list[" ++ c.qualifiedName ++ "]")
  | function f => .ok f.display
  | ref _ => .ok ""

end Value

namespace Heap

/-- A value, shown inside the objects at the `active` addresses. The first argument bounds how
deeply objects are nested. -/
def displayAt (h : Heap) : Nat → List Address → Value → Except Fault String
  | 0, _, _ => .error .nestingLimit
  | depth + 1, active, v => match v with
    | .ref a => match h.cell a with
      | .sequence k items =>
        match if active.contains a then k.ellipsis? else none with
        | some dots => .ok dots
        | none => do return k.display (← items.mapM (h.displayAt depth (a :: active)))
      | .dict k entries =>
        if active.contains a then .ok k.ellipsis
        else do return k.display (← displayEntries (h.displayAt depth (a :: active)) entries)
      | .byteArray content => .ok ("bytearray(" ++ Text.displayBytes content ++ ")")
      | .inst c => .ok c.displayInstance
      | .pattern p parts => p.displayWith (h.displayAt depth) active (.node (some a) parts)
      | .predicate p => .ok ("<pred " ++ p.name ++ ">")
    | v => v.displaySimple

def display (h : Heap) (v : Value) : Except Fault String := h.displayAt nestingLimit [] v

def displayPattern (h : Heap) (p : Pattern) (origin : Provenance) : Except Fault String :=
  p.displayWith (h.displayAt nestingLimit) [] origin

/-- The plain text of a value: text stands for itself, a date or a decimal number is written out, a
view is shown as the dictionary behind it, and all else is displayed. -/
def text (h : Heap) (v : Value) : Except Fault String :=
  match v with
  | .str s | .boxed (.str s) | .userStr s => .ok s
  | .datetime m => .ok m.text
  | .date d => .ok d.text
  | .decimal d => .ok d.text
  | .ref a => match h.cell a with
    | .inst .exception | .inst .valueError => .ok ""
    | .dict .proxy entries => do
      return DictKind.plain.display (← displayEntries (h.displayAt nestingLimit [a]) entries)
    | _ => h.display v
  | _ => h.display v

theorem text_str (h : Heap) (s : String) : h.text (.str s) = .ok s := rfl

end Heap
end Conformance
