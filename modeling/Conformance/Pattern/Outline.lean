import Conformance.Match.Matcher

/-!
# Outlines of patterns

An outline lists the parts of a pattern by name, so that a built pattern can be inspected: the type
and kind of each variant, its sub-patterns, and its operands as diagnostics show them.
-/

namespace Conformance

inductive Outline where
  | text (s : String)
  | absent
  | variant (typeName kind : String) (parts : List (String × Outline))
  | choices (items : List Outline)
  | fields (items : List (String × Outline))

namespace Outline

def ofText? : Option String → Outline
  | some s => text s
  | none => absent

def ofVariant (p : Pattern) (parts : List (String × Outline)) : Outline :=
  variant p.typeName p.kind parts

end Outline

mutual

def Pattern.outline (h : Heap) : Pattern → Except Fault Outline
  | .literal v => do
    return .ofVariant (.literal v)
      [("value", .text (← h.display v)), ("category", .text (h.category v).name)]
  | .typeTag o k => .ok (.ofVariant (.typeTag o k) [("name", .text k.name)])
  | .dateTag => .ok (.ofVariant .dateTag [("cls", .text Class.datetime.name)])
  | .regexTag => .ok (.ofVariant .regexTag [("cls", .text Class.regex.name)])
  | .instanceOf v => .ok (.ofVariant (.instanceOf v) [("cls", .ofText? v.className?)])
  | .arrayOf p => do return .ofVariant (.arrayOf p) [("element", ← p.outline h)]
  | .object u fields => do
    return .ofVariant (.object u fields) [("fields", .fields (← Pattern.outlineFields h fields))]
  | .objectWithValues p => do return .ofVariant (.objectWithValues p) [("values", ← p.outline h)]
  | .wrap o w p => do return .ofVariant (.wrap o w p) [("inner", ← p.outline h)]
  | .oneOf choices => do
    return .ofVariant (.oneOf choices) [("choices", .choices (← Pattern.outlineChoices h choices))]
  | .satisfies v => do return .ofVariant (.satisfies v) [("predicate", .text (← h.display v))]
  | p => .ok (.ofVariant p [])
termination_by structural p => p

def Pattern.outlineFields (h : Heap) :
    List (String × Pattern) → Except Fault (List (String × Outline))
  | [] => .ok []
  | (name, p) :: rest => do
    let first ← p.outline h
    return (name, first) :: (← Pattern.outlineFields h rest)
termination_by structural fields => fields

def Pattern.outlineChoices (h : Heap) : List Pattern → Except Fault (List Outline)
  | [] => .ok []
  | p :: rest => do
    let first ← p.outline h
    return first :: (← Pattern.outlineChoices h rest)
termination_by structural choices => choices

end

end Conformance
