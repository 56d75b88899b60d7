import Conformance.Heap.Conversion.Container
import Conformance.Heap.Display

/-!
# Building patterns

A raw value stands for a pattern: a class for a tag or a class pattern, a primitive for a literal, a
list of one element for an array pattern, a dictionary for an object pattern. `Heap.toPattern` turns
a raw value into the pattern it stands for. The remaining functions build one variant each from raw
operands, and reject operands that the variant cannot take.
-/

namespace Conformance

/-! ### Shorthands -/

def Class.toPattern : Class → Pattern
  | str => .typeTag .native .string
  | float => .typeTag .native .number
  | bool => .typeTag .native .boolean
  | int => .integer
  | object => .objectTag
  | list => .arrayTag
  | datetime => .dateTag
  | regex => .regexTag
  | c => .instanceOf (.classObject c)

def SequenceKind.isShorthand : SequenceKind → Bool
  | list | derivedList | callableList => true
  | _ => false

def DictKind.isShorthand : DictKind → Bool
  | user | proxy => false
  | _ => true

/-! ### Attributes of built patterns -/

namespace Pattern

def ownerName : Pattern → String
  | .typeTag _ k => (Pattern.typeTag .native k).typeName
  | .wrap _ w p => (Pattern.wrap .native w p).typeName
  | p => p.typeName

/-- Whether an attribute of a pattern can be changed. A native variant is frozen; a foreign one is
frozen in the fields of the variant that it specialises, and a pattern of a foreign type not at
all. -/
def assignAttribute (p : Pattern) (name : String) (deleting : Bool) : Except Fault Unit :=
  let frozen := match p with
    | .foreign _ _ => false
    | .typeTag .foreign _ | .wrap .foreign _ _ => p.fieldNames.contains name
    | _ => true
  if frozen then .error (.frozenField deleting name)
  else if deleting then .error (.noAttribute p.typeName name)
  else .ok ()

end Pattern

/-! ### Attributes of values -/

def Cell.isExtensible : Cell → Bool
  | .sequence k _ => k = .derivedList || k = .callableList || k = .userList
  | .dict k _ => k = .record || k = .callableRecord || k = .user || k = .ordered
  | .byteArray _ => false
  | .inst c => c ≠ .object && c ≠ .number
  | .pattern _ _ | .predicate _ => true

def Heap.isExtensible (h : Heap) : Value → Bool
  | .undefined | .boxed _ | .userStr _ | .function .noop => true
  | .ref a => (h.cell a).isExtensible
  | _ => false

/-- Sets or deletes an attribute that the value does not have yet. -/
def Heap.assignAttribute (h : Heap) (v : Value) (name : String) (deleting : Bool) :
    Except Fault Unit :=
  match v with
  | .classObject c =>
    if c.isFixed then .error (.fixedClass c.qualifiedName name)
    else if deleting then .error (.noClassAttribute c.ownerName name)
    else .ok ()
  | v =>
    if deleting || !h.isExtensible v then .error (.noAttribute (h.fullTypeName v) name)
    else .ok ()

/-! ### Raw values -/

namespace Heap

def unknownPattern (h : Heap) (v : Value) : Fault := .badPattern (.unknownType (h.typeName v))

/-- The fields that dictionary entries declare, in order; their patterns are made by `build`. -/
def declareFields (h : Heap) (build : Value → Except Fault Pattern) :
    List (Value × Value) → Except Fault (List (String × Pattern))
  | [] => .ok []
  | (key, raw) :: rest =>
    match key.string? with
    | none => do .error (.badPattern (.fieldNameNotText (← h.display key)))
    | some name => do
      let p ← build raw
      return (name, p) :: (← h.declareFields build rest)

/-- The pattern that a raw value stands for. The first argument bounds how deeply raw values are
nested. -/
def toPatternAt (h : Heap) : Nat → Value → Except Fault Pattern
  | 0, _ => .error .nestingLimit
  | depth + 1, v => match v with
    | .null => .ok (.typeTag .native .null)
    | .undefined => .ok (.typeTag .native .undefined)
    | .classObject c => .ok c.toPattern
    | .str _ | .bool _ | .int _ | .float _ | .boxed _ => .ok (.literal v)
    | .ref a => match h.cell a with
      | .pattern p _ => .ok p
      | .sequence k items =>
        if !k.isShorthand then .error (h.unknownPattern v)
        else match items with
          | [element] => do return .arrayOf (← h.toPatternAt depth element)
          | _ => do .error (.badPattern (.elementCount (← h.display v)))
      | .dict k entries =>
        if !k.isShorthand then .error (h.unknownPattern v)
        else do return .object .reject (← h.declareFields (h.toPatternAt depth) entries)
      | _ => .error (h.unknownPattern v)
    | _ => .error (h.unknownPattern v)

def toPattern (h : Heap) (v : Value) : Except Fault Pattern := h.toPatternAt nestingLimit v

/-- Which objects the pattern that a raw value stands for and its parts are. -/
def provenanceAt (h : Heap) : Nat → Value → Provenance
  | 0, _ => .fresh
  | depth + 1, v => match v with
    | .ref a => match h.cell a with
      | .pattern _ parts => .node (some a) parts
      | .sequence _ [element] => .node none [h.provenanceAt depth element]
      | .dict _ entries => .node none (entries.map fun e => h.provenanceAt depth e.2)
      | _ => .fresh
    | _ => .fresh

def provenance (h : Heap) (v : Value) : Provenance := h.provenanceAt nestingLimit v

/-! ### Variants with operands -/

/-- The entries of an operand that declares fields: a mapping, or a tuple of pairs. -/
def fieldEntries (h : Heap) (v : Value) : Except Fault (List (Value × Value)) :=
  match v with
  | .ref a => match h.cell a with
    | .sequence .tuple items | .sequence .point items => h.collectPairs h.sizedPair 0 [] items
    | .dict _ entries => .ok entries
    | _ => .error (.badPattern (.fieldsNotMapping (h.typeName v)))
  | _ => .error (.badPattern (.fieldsNotMapping (h.typeName v)))

def objectPattern (h : Heap) (unknown : UnknownKeys) (v : Value) : Except Fault Pattern := do
  return .object unknown (← h.declareFields h.toPattern (← h.fieldEntries v))

def arrayPattern (h : Heap) (v : Value) : Except Fault Pattern := do
  return .arrayOf (← h.toPattern v)

def valuesPattern (h : Heap) (v : Value) : Except Fault Pattern := do
  return .objectWithValues (← h.toPattern v)

def wrapPattern (h : Heap) (origin : Origin) (wrapper : Wrapper) (v : Value) :
    Except Fault Pattern := do
  return .wrap origin wrapper (← h.toPattern v)

/-- A choice among raw patterns, of which there must be one at least. -/
def choicePattern (h : Heap) (choices : List Value) : Except Fault Pattern :=
  if choices.isEmpty then .error (.badPattern .noChoices)
  else do return .oneOf (← choices.mapM h.toPattern)

def tagPattern (h : Heap) (origin : Origin) (name : Value) : Except Fault Pattern :=
  match name.text?.bind TypeKind.ofName? with
  | some k => .ok (.typeTag origin k)
  | none => do .error (.badPattern (.unknownTypeTag (← h.display name)))

def predicatePattern (h : Heap) (v : Value) : Except Fault Pattern :=
  if h.isCallable v then .ok (.satisfies v) else .error (.badPattern .notCallable)

def fieldProvenances (h : Heap) (v : Value) : List Provenance :=
  match h.fieldEntries v with
  | .ok entries => entries.map fun e => h.provenance e.2
  | .error _ => []

/-! ### Copying built patterns -/

/-- Builds the variant again with another operand for its only field. -/
def rebuild (h : Heap) (p : Pattern) (operand : Value) : Except Fault Pattern :=
  match p with
  | .literal _ => .ok (.literal operand)
  | .typeTag o _ => h.tagPattern o operand
  | .instanceOf _ => .ok (.instanceOf operand)
  | .arrayOf _ => h.arrayPattern operand
  | .object u _ => h.objectPattern u operand
  | .objectWithValues _ => h.valuesPattern operand
  | .wrap o w _ => h.wrapPattern o w operand
  | .satisfies _ => h.predicatePattern operand
  | p => .ok p

/-- A copy of a pattern in which some fields have other operands. A choice pattern takes no field
by name. Of several operands for one field the last counts. -/
def replaceFields (h : Heap) (p : Pattern) (changes : List (String × Value)) :
    Except Fault Pattern :=
  match p with
  | .foreign _ _ => .error .notReplaceable
  | .oneOf _ => match changes with
    | [] => .error (.unexpectedArgument p.typeName "choices")
    | (name, _) :: _ => .error (.unexpectedArgument p.typeName name)
  | p => match changes.find? fun c => !p.fieldNames.contains c.1 with
    | some (name, _) => .error (.unexpectedArgument p.ownerName name)
    | none => match changes.getLast? with
      | some (_, operand) => h.rebuild p operand
      | none => .ok p

end Heap
end Conformance
