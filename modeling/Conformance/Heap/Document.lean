import Conformance.Heap.Display
import Conformance.Text.Escape

/-!
# Values as documents

The JSON text of a value. Null, booleans, numbers, texts, lists and dictionaries have one; whether
other objects are refused or written as their plain text is a parameter. An object inside itself is
refused.
-/

namespace Conformance

inductive Unencodable where
  /-- The document is refused. -/
  | refuse
  /-- The plain text of the object is written. -/
  | describe
deriving DecidableEq, Repr

structure DocumentStyle where
  repertoire : Text.Repertoire
  unencodable : Unencodable

namespace DocumentStyle

def failure : DocumentStyle := ⟨.unicode, .refuse⟩

def literal : DocumentStyle := ⟨.ascii, .refuse⟩

def logLine : DocumentStyle := ⟨.ascii, .describe⟩

end DocumentStyle

def SequenceKind.isDocument : SequenceKind → Bool
  | list | derivedList | callableList | tuple | point => true
  | _ => false

def DictKind.isDocument : DictKind → Bool
  | user | proxy => false
  | _ => true

namespace Heap

def scalarDocument? (style : DocumentStyle) : Value → Option (Except Fault String)
  | .null => some (.ok "null")
  | .bool b => some (.ok (if b then "true" else "false"))
  | .int n | .boxed (.int n) => some (integerText n)
  | .float x | .boxed (.float x) => some (.ok (DoubleLayout.document.write x))
  | .str s | .boxed (.str s) => some (.ok (style.repertoire.quote s))
  | _ => none

def documentKey (h : Heap) : Value → Except Fault String
  | .str s | .boxed (.str s) => .ok s
  | .null => .ok "null"
  | .bool b => .ok (if b then "true" else "false")
  | .int n | .boxed (.int n) => integerText n
  | .float x | .boxed (.float x) => .ok (DoubleLayout.document.write x)
  | v => .error (.keyNotEncodable (h.fullTypeName v))

def otherDocument (h : Heap) (style : DocumentStyle) (v : Value) : Except Fault String :=
  match style.unencodable with
  | .refuse => .error (.notEncodable (h.typeName v))
  | .describe => do return style.repertoire.quote (← h.text v)

/-- A value as a document inside the objects at the `active` addresses. The first argument bounds
how deeply objects are nested. -/
def documentAt (h : Heap) (style : DocumentStyle) :
    Nat → List Address → Value → Except Fault String
  | 0, _, _ => .error .nestingLimit
  | depth + 1, active, v => match scalarDocument? style v with
    | some text => text
    | none => match v with
      | .ref a => match h.cell a with
        | .sequence k items =>
          if !k.isDocument then h.otherDocument style v
          else if items.isEmpty then .ok "[]"
          else if active.contains a then .error .circular
          else do return enclosed "[" "]" (← items.mapM (h.documentAt style depth (a :: active)))
        | .dict k entries =>
          if !k.isDocument then h.otherDocument style v
          else if entries.isEmpty then .ok "\x7b\x7d"
          else if active.contains a then .error .circular
          else do
            let written ← entries.mapM fun e => do
              let key ← h.documentKey e.1
              return style.repertoire.quote key ++ ": " ++
                (← h.documentAt style depth (a :: active) e.2)
            return enclosed "\x7b" "\x7d" written
        | _ => h.otherDocument style v
      | v => h.otherDocument style v

def document (h : Heap) (style : DocumentStyle) (v : Value) : Except Fault String :=
  h.documentAt style nestingLimit [] v

theorem document_str (h : Heap) (style : DocumentStyle) (s : String) :
    h.document style (.str s) = .ok (style.repertoire.quote s) := rfl

/-! ### Values in failure texts -/

/-- An actual value in a failure text: its document, or its category if it has none. -/
def renderValue (h : Heap) (v : Value) : String :=
  match v with
  | .undefined => "undefined"
  | v => match h.document .failure v with
    | .ok text => text
    | .error _ => (h.category v).name

/-- An expected value in a failure text: a text stands for itself, all else is a document. -/
def renderLiteral (h : Heap) (v : Value) : Except Fault String :=
  match v.string? with
  | some s => .ok s
  | none => h.document .literal v

theorem renderValue_undefined (h : Heap) : h.renderValue .undefined = "undefined" := rfl

theorem renderLiteral_str (h : Heap) (s : String) : h.renderLiteral (.str s) = .ok s := rfl

end Heap
end Conformance
