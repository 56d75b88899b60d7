import Conformance.Match.Report

/-!
# Reports from fields

A report can be built from fields given by name. Fields of a wrong type and missing fields are
listed in declaration order; other fields are ignored. The fields of a report that was built cannot
be changed.
-/

namespace Conformance

inductive FieldValue where
  | text (s : String)
  | flag (b : Bool)
  | null
  | other
deriving DecidableEq

inductive FieldProblem where
  | missing | notText | notFlag | frozen
deriving DecidableEq, Repr

namespace FieldProblem

def kind : FieldProblem → String
  | missing => "missing"
  | notText => "string_type"
  | notFlag => "bool_type"
  | frozen => "frozen_instance"

def message : FieldProblem → String
  | missing => "Field required"
  | notText => "Input should be a valid string"
  | notFlag => "Input should be a valid boolean"
  | frozen => "Instance is frozen"

end FieldProblem

abbrev ReportForm := List (String × FieldValue)

namespace ReportForm

def get? (form : ReportForm) (name : String) : Option FieldValue :=
  (form.find? (·.1 = name)).map (·.2)

def requiredFlag (form : ReportForm) (name : String) : Except FieldProblem Bool :=
  match form.get? name with
  | none => .error .missing
  | some (.flag b) => .ok b
  | some _ => .error .notFlag

def requiredText (form : ReportForm) (name : String) : Except FieldProblem String :=
  match form.get? name with
  | none => .error .missing
  | some (.text s) => .ok s
  | some _ => .error .notText

def optionalText (form : ReportForm) (name : String) : Except FieldProblem (Option String) :=
  match form.get? name with
  | none | some .null => .ok none
  | some (.text s) => .ok (some s)
  | some _ => .error .notText

def textWithDefault (form : ReportForm) (name default : String) : Except FieldProblem String :=
  match form.get? name with
  | none => .ok default
  | some (.text s) => .ok s
  | some _ => .error .notText

def problem? {α : Type} (name : String) : Except FieldProblem α → List (FieldProblem × String)
  | .ok _ => []
  | .error p => [(p, name)]

/-- Builds a report, or lists what is wrong with the fields. -/
def build (form : ReportForm) : Except (List (FieldProblem × String)) Report :=
  match form.requiredFlag "ok", form.optionalText "message", form.optionalText "reason",
    form.textWithDefault "path" "", form.requiredText "core_version" with
  | .ok ok, .ok message, .ok reason, .ok path, .ok coreVersion =>
    .ok { ok, message, reason, path, coreVersion }
  | ok, message, reason, path, coreVersion =>
    .error (problem? "ok" ok ++ problem? "message" message ++ problem? "reason" reason ++
      problem? "path" path ++ problem? "core_version" coreVersion)

/-- May an attribute of this name be set on a built report? A name that begins with an underscore is
no field. -/
def isPrivate (name : String) : Bool := name.toList.head? = some '_'

/-- Builds a report and then tries to set one of its attributes, if one is named. -/
def buildAndAssign (form : ReportForm) (field : Option String) :
    Except (List (FieldProblem × String)) Report := do
  let report ← form.build
  match field with
  | some name => if isPrivate name then return report else .error [(.frozen, name)]
  | none => return report

end ReportForm
end Conformance
