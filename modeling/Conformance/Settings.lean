import Conformance.Fault
import Conformance.Text.Blank
import Conformance.Text.Upper

/-!
# Settings

The settings of the library, with their defaults, and how they are read from an environment of named
texts.
-/

namespace Conformance

structure Settings where
  coreVersion : String := "1.0.0"
  logLevel : String := "WARNING"
  /-- The type of a level that was given, if it is no text. -/
  levelType : Option String := none
  logFormat : String := "text"
  /-- Does a failed check write a log line? -/
  logMismatches : Bool := false
deriving DecidableEq

inductive SettingValue where
  | text (s : String)
  /-- Something that is no text. It may count as true. -/
  | other (typeName : String) (truth : Bool)
deriving DecidableEq

namespace Settings

/-- Does a text switch a flag on? Blanks around it and the case of letters do not count. -/
def isOn (s : String) : Bool :=
  let word := String.ofList ((Text.strip s.toList).map Char.toLower)
  ["1", "true", "yes", "on"].contains word

def ofEnvironment (get? : String → Option String) : Settings :=
  { logLevel := Text.upper ((get? "SHAPECHECK_LOG_LEVEL").getD "WARNING")
    logFormat := (get? "SHAPECHECK_LOG_FORMAT").getD "text"
    logMismatches := isOn ((get? "SHAPECHECK_LOG_MISMATCHES").getD "false") }

/-- Sets one setting by its name. A text counts as a flag unless it is empty. -/
def set (s : Settings) (name : String) (value : SettingValue) : Except Fault Settings :=
  let flag : Bool := match value with
    | .text t => t ≠ ""
    | .other _ truth => truth
  let (text, typeName) := match value with
    | .text t => (t, none)
    | .other typeName _ => ("", some typeName)
  if name = "CORE_VERSION" then .ok { s with coreVersion := text }
  else if name = "LOG_LEVEL" then .ok { s with logLevel := text, levelType := typeName }
  else if name = "LOG_FORMAT" then .ok { s with logFormat := text }
  else if name = "LOG_MISMATCHES" then .ok { s with logMismatches := flag }
  else .error (.unexpectedArgument "Settings" name)

def ofFields (fields : List (String × SettingValue)) : Except Fault Settings :=
  fields.foldlM (fun s f => s.set f.1 f.2) {}

theorem ofEnvironment_empty : ofEnvironment (fun _ => none) = {} := by decide +kernel

end Settings
end Conformance
