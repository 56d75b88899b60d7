import Conformance.Fault

/-!
# Log levels

Levels are integers. Six of them have names, two of which have a second spelling.
-/

namespace Conformance.Level

def notSet : Int := 0
def debug : Int := 10
def info : Int := 20
def warning : Int := 30
def error : Int := 40
def critical : Int := 50

def name (level : Int) : String :=
  if level = notSet then "NOTSET"
  else if level = debug then "DEBUG"
  else if level = info then "INFO"
  else if level = warning then "WARNING"
  else if level = error then "ERROR"
  else if level = critical then "CRITICAL"
  else "Level " ++ toString level

/-- The name of a level that is given as a value. The truth value that stands for one is shown as
such. -/
def nameOf : Value → String
  | .bool true => "Level True"
  | v => name (v.index?.getD notSet)

theorem nameOf_int (n : Int) : nameOf (.int n) = name n := rfl

/-- The layout of lines that has the name `BASIC_FORMAT`. -/
def basicFormat : String := "%(levelname)s:%(name)s:%(message)s"

/-- The layouts of lines that have the name `_STYLES`, as diagnostics show them. -/
def layoutTable : String :=
  "\x7b'%': (<class 'logging.PercentStyle'>, '" ++ basicFormat ++ "'), " ++
    "'\x7b': (<class 'logging.StrFormatStyle'>, " ++
    "'\x7blevelname\x7d:\x7bname\x7d:\x7bmessage\x7d'), " ++
    "'$': (<class 'logging.StringTemplateStyle'>, " ++
    "'$\x7blevelname\x7d:$\x7bname\x7d:$\x7bmessage\x7d')\x7d"

/-- The level of a name in upper case. A name that belongs to no level stands for warnings, unless
it is the name of the basic format or of the table of layouts, which are no levels. -/
def ofName (name : String) : Except Fault Int :=
  if name = "NOTSET" then .ok notSet
  else if name = "DEBUG" then .ok debug
  else if name = "INFO" then .ok info
  else if name = "WARN" ∨ name = "WARNING" then .ok warning
  else if name = "ERROR" then .ok error
  else if name = "CRITICAL" ∨ name = "FATAL" then .ok critical
  else if name = "BASIC_FORMAT" then .error (.unknownLevel basicFormat)
  else if name = "_STYLES" then .error (.levelNotAccepted layoutTable)
  else .ok warning

/-- The level from which a logger admits records. Without a level of its own it takes the general
one. -/
def effective (level : Int) : Int := if level = notSet then warning else level

end Conformance.Level
