import Conformance.Log.Record
import Conformance.Match.Run
import Conformance.Settings

/-!
# The logger

The library has one logger with a level and at most one handler. A set-up replaces the handler by
one that writes to a new stream. A record that the level admits is written by the handler; a record
that cannot be written is dropped, except that a nesting fault stops the logging call.
-/

namespace Conformance

/-- Where and how records are written. -/
structure Handler where
  format : LineFormat
  stream : Nat
deriving DecidableEq

structure LogLine where
  stream : Nat
  text : String
deriving DecidableEq

structure Logger where
  level : Int := Level.notSet
  handler : Option Handler := none
  /-- How many streams were made; the newest one has this number. -/
  streams : Nat := 0
deriving DecidableEq

/-- How a set-up asks for a level. -/
inductive LevelWord where
  | absent
  | word (s : String)
  /-- Something that is no word. -/
  | other (typeName : String)
deriving DecidableEq, Repr

namespace Logger

/-- The name of the logger, with which the names of all loggers below it begin. -/
def rootName : String := "shapecheck"

def childName (name : String) : String := rootName ++ "." ++ name

/-- A text that is given and not empty, or else the default. -/
def textOr (default : String) : Option String → String
  | some s => if s = "" then default else s
  | none => default

/-- A level that is no word has no upper case. -/
def upperRefused (typeName : String) : Except Fault String :=
  .error (.noAttribute typeName "upper")

def defaultWord (settings : Settings) : Except Fault String :=
  match settings.levelType with
  | some typeName => upperRefused typeName
  | none => .ok settings.logLevel

def levelWord (settings : Settings) : LevelWord → Except Fault String
  | .absent => defaultWord settings
  | .word s => if s = "" then defaultWord settings else .ok s
  | .other typeName => upperRefused typeName

/-- Sets the level and replaces the handler. A new stream is made even if the level is refused; the
old handler then stays. -/
def setup (l : Logger) (settings : Settings) (level : LevelWord) (format : Option String) :
    Logger × Except Fault Unit :=
  let started := { l with streams := l.streams + 1 }
  match levelWord settings level >>= fun word => Level.ofName (Text.upper word) with
  | .error f => (started, .error f)
  | .ok n =>
    let form := LineFormat.ofSetting (textOr settings.logFormat format)
    ({ started with level := n, handler := some ⟨form, started.streams⟩ }, .ok ())

def admits (l : Logger) (level : Int) : Bool := Level.effective l.level ≤ level

def reservedNames : List String :=
  ["message", "asctime", "name", "msg", "args", "levelname", "levelno", "pathname", "filename",
    "module", "exc_info", "exc_text", "stack_info", "lineno", "funcName", "created", "msecs",
    "relativeCreated", "thread", "threadName", "processName", "process"]

/-- The lines that a record causes, marked with the time `stamp`. -/
def emit (l : Logger) (h : Heap) (stamp : String) (r : LogRecord) : Except Fault (List LogLine) :=
  if l.admits r.level then
    match r.extras.find? fun e => reservedNames.contains e.1 with
    | some (name, _) => .error (.reservedExtra name)
    | none => match l.handler with
      | none => .ok []
      | some handler => match ((r.write stamp handler.format).run.run h).1 with
        | .ok text => .ok [⟨handler.stream, text⟩]
        | .error .nestingLimit => .error .nestingLimit
        | .error _ => .ok []
  else .ok []

def noteRecord (n : MismatchNote) : LogRecord :=
  { logger := childName "matcher"
    level := Level.debug
    template := "Match failed: %s"
    arguments := [.str n.mismatch.message]
    extras := [("reason", .str n.mismatch.reason.text), ("path", .str n.mismatch.path),
      ("pattern_kind", .str n.patternKind)]
    exception := .none }

def notes : List Event → List MismatchNote
  | [] => []
  | .noted n :: rest => n :: notes rest
  | .called _ _ :: rest => notes rest

def noteLines (l : Logger) (h : Heap) (stamp : String) (events : List Event) : List LogLine :=
  (notes events).flatMap fun n => match l.emit h stamp (noteRecord n) with
    | .ok lines => lines
    | .error _ => []

end Logger
end Conformance
