import Conformance.Mismatch
import Conformance.Text.Escape

/-!
# Reports

The verdict of a match in a form that can be passed on: whether the value conforms, and otherwise
the message, the reason and the path of the mismatch, together with a version.
-/

namespace Conformance

structure Report where
  ok : Bool
  message : Option String
  reason : Option String
  path : String
  coreVersion : String
deriving DecidableEq

namespace Report

def conforming (coreVersion : String) : Report := ⟨true, none, none, "", coreVersion⟩

def diverging (coreVersion : String) (m : Mismatch) : Report :=
  ⟨false, some m.message, some m.reason.text, m.path, coreVersion⟩

def optionalText : Option String → String
  | some s => Text.Repertoire.unicode.quote s
  | none => "null"

/-- The report as a compact document with its fields in declaration order. -/
def document (r : Report) : String :=
  "\x7b\"ok\":" ++ (if r.ok then "true" else "false") ++
    ",\"message\":" ++ optionalText r.message ++
    ",\"reason\":" ++ optionalText r.reason ++
    ",\"path\":" ++ Text.Repertoire.unicode.quote r.path ++
    ",\"core_version\":" ++ Text.Repertoire.unicode.quote r.coreVersion ++ "\x7d"

end Report
end Conformance
