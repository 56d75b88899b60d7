import Conformance.Heap.Document
import Conformance.Log.Level
import Conformance.Log.Template
import Conformance.Mismatch

/-!
# Log records and log lines

A record is written either as one line of text or as one document. The document holds the extra
fields that it knows, unless they are null; the text leaves them out.
-/

namespace Conformance

inductive RecordedException where
  | none
  /-- An exception slot that holds nothing. -/
  | empty
  | raised (kind : ExceptionKind) (message : String)
deriving DecidableEq

def RecordedException.text? : RecordedException → Option String
  | .none => Option.none
  | .empty => Option.none
  | .raised kind message =>
    let name := match kind with
      | .patternError => Class.patternError.qualifiedName
      | k => Fault.ofException k
    let words := Fault.exceptionMessage kind message
    some (if words = "" then name else name ++ ": " ++ words)

structure LogRecord where
  logger : String
  level : Int
  /-- The name under which the level is shown. -/
  levelName : String := Level.name level
  template : String
  arguments : List Value
  extras : List (String × Value)
  exception : RecordedException

inductive LineFormat where
  | document | text
deriving DecidableEq, Repr

/-- The form that a setting asks for. Any word but one asks for text. -/
def LineFormat.ofSetting (s : String) : LineFormat := if s = "json" then .document else .text

namespace LogRecord

/-- The extra fields that a document holds, in its order. -/
def documentFields : List String := ["reason", "path", "pattern_kind", "error", "error_type"]

/-- The value of an extra field; of several values the last one counts. -/
def extra? (r : LogRecord) (name : String) : Option Value :=
  (r.extras.reverse.find? (·.1 = name)).map (·.2)

def message (r : LogRecord) : Template.Filling String :=
  Template.message r.template r.arguments

def extraDocuments (h : Heap) (r : LogRecord) : List String → Except Fault (List (String × String))
  | [] => .ok []
  | name :: rest => match r.extra? name with
    | none | some .null => r.extraDocuments h rest
    | some v => do
      let written ← h.document .logLine v
      return (name, written) :: (← r.extraDocuments h rest)

theorem extraDocuments_str {h : Heap} {r : LogRecord} {name s : String} {rest : List String}
    {written : List (String × String)} (hname : r.extra? name = some (.str s))
    (hrest : r.extraDocuments h rest = .ok written) :
    r.extraDocuments h (name :: rest) =
      .ok ((name, Text.Repertoire.ascii.quote s) :: written) := by
  simp only [extraDocuments, hname, Heap.document_str, hrest]
  rfl

/-- The record as a document, marked with the time `stamp`. -/
def document (stamp : String) (r : LogRecord) : Template.Filling String := do
  let quote := DocumentStyle.logLine.repertoire.quote
  let message ← r.message
  let extras ← r.extraDocuments (← get) documentFields
  let exception := match r.exception.text? with
    | some t => [("exception", quote t)]
    | none => []
  let fields := [("timestamp", quote stamp), ("level", quote (r.levelName)),
    ("logger", quote r.logger), ("message", quote message)] ++ extras ++ exception
  return enclosed "\x7b" "\x7d" (fields.map fun f => quote f.1 ++ ": " ++ f.2)

theorem document_run {h : Heap} {r : LogRecord} {stamp message : String}
    {extras : List (String × String)} (hmessage : r.message.run.run h = (.ok message, h))
    (hextras : r.extraDocuments h documentFields = .ok extras) (hnone : r.exception = .none) :
    (r.document stamp).run.run h =
      let quote := DocumentStyle.logLine.repertoire.quote
      let fields := [("timestamp", quote stamp), ("level", quote r.levelName),
        ("logger", quote r.logger), ("message", quote message)] ++ extras
      (.ok (enclosed "\x7b" "\x7d" (fields.map fun f => quote f.1 ++ ": " ++ f.2)), h) := by
  rw [document, Template.run_bind_of_ok hmessage, Template.run_bind_of_ok Template.run_get,
    Template.run_bind_of_ok (Template.run_lift hextras)]
  simp only [hnone, RecordedException.text?, List.append_nil]
  rfl

def padRight (s : String) : String := s ++ String.ofList (List.replicate (8 - s.length) ' ')

/-- The mark of log lines for a time in seconds after the start of 1970. Times past the range of
machine integers have no mark. -/
def stampOf (seconds : Int) : Except Fault String :=
  if (sizeLimit : Int) < seconds ∨ seconds < -(sizeLimit : Int) - 1 then .error .timeTooLarge
  else
    let moment := Moment.ofUnixSeconds seconds
    let limit : Int := Nat.pow 2 31
    if moment.date.year - 1900 < -limit ∨ limit ≤ moment.date.year - 1900 then .error .timeTooFar
    else if limit ≤ moment.date.year then .error .yearTooLarge
    else .ok moment.stamp

/-- The record as a line of text, marked with a time. An exception begins a line of its own. -/
def text (stamp : Except Fault String) (r : LogRecord) : Template.Filling String := do
  let message ← r.message
  let line := (← stamp) ++ " [" ++ padRight (r.levelName) ++ "] " ++ r.logger ++ ": " ++
    message
  let separated := if line.toList.getLast? = some '\n' then line else line ++ "\n"
  return match r.exception with
    | .none => line
    | .empty => separated ++ "NoneType: None"
    | e => separated ++ e.text?.getD ""

theorem text_run {h : Heap} {r : LogRecord} {stamp message : String}
    (hmessage : r.message.run.run h = (.ok message, h)) (hnone : r.exception = .none) :
    (r.text (.ok stamp)).run.run h =
      (.ok (stamp ++ " [" ++ padRight r.levelName ++ "] " ++ r.logger ++ ": " ++ message), h) := by
  rw [text, Template.run_bind_of_ok hmessage]
  simp only [hnone]
  rfl

def write (stamp : String) (r : LogRecord) : LineFormat → Template.Filling String
  | .document => r.document stamp
  | .text => r.text (.ok stamp)

end LogRecord
end Conformance
