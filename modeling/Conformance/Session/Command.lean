import Conformance.Match.ReportForm
import Conformance.Pattern.Outline
import Conformance.Session.Basic

/-!
# Commands

What a client can ask of a session, and the answers. A command returns an answer, the lines that
were logged, and the session after it. A failed command changes nothing but what it had changed
before the failure.
-/

namespace Conformance

structure Inspection where
  category : Category
  arrayLike : Bool
  plain : Bool
  rendered : String
deriving DecidableEq

inductive Command where
  | check (value pattern : Value)
  | accepts (value pattern : Value)
  | explain (value pattern : Value)
  | matchAt (value pattern : Value) (path : String)
  | normalize (pattern : Value)
  | equal (left right : Value)
  | replace (pattern : Value) (changes : List (String × Value))
  | assign (pattern : Value) (name : String) (deleting : Bool)
  | inspect (value : Value)
  | literal (value : Value)
  | keys (keys : List Value) (start : String)
  | concat (base : String) (tails : List String)
  | report (form : ReportForm) (field : Option String)
  | environment (texts : List (String × String))
  | record (r : LogRecord) (seconds : Int)
  | bind (name : String) (value : Value)
  | setItem (name : String) (key value : Value)
  | append (name : String) (value : Value)
  | drop (name : String) (key : Value)
  | settings (fields : List (String × SettingValue))
  | setup (level : LevelWord) (format : Option String)
  | log (logger : String) (level : Int) (message : String) (extras : List (String × Value))

inductive Answer where
  | done
  | verdict (accepted : Bool)
  | report (r : Report)
  | outline (o : Outline) (shown : String)
  /-- Whether two patterns are equal, and for equal ones whether they can be hashed. -/
  | equality (hashed : Option (Except Fault Unit))
  | copy (o : Outline) (equal : Bool)
  | inspection (i : Inspection)
  | rendered (text : String)
  /-- The accessor of each key, and the path up to it. -/
  | accessors (steps : List (String × String))
  | paths (steps : List String)
  | problems (list : List (FieldProblem × String))
  | settings (s : Settings)
  | lines (document text : Except Fault String)
  | logger (level : Int) (format : LineFormat)
  | failed (e : Failure)

namespace Answer

def ofExcept : Except Fault Answer → Answer
  | .ok a => a
  | .error f => failed (.fault f)

def ofResult {α : Type} (answer : α → Answer) : Except Failure α → Answer
  | .ok a => answer a
  | .error e => failed e

end Answer

namespace Command

/-- The accessors of keys and the paths that they extend, one after the other. -/
def accessorSteps (h : Heap) : String → List Value → Except Fault (List (String × String))
  | _, [] => .ok []
  | path, key :: rest => do
    let accessor ← Path.keyAccessor h key
    let extended ← Path.join h path key
    return (accessor, extended) :: (← accessorSteps h extended rest)

def concatSteps : String → List String → List String
  | _, [] => []
  | path, tail :: rest => Path.concat path tail :: concatSteps (Path.concat path tail) rest

def compare (h : Heap) (left right : Value) : Except Fault Answer := do
  let p ← h.toPattern left
  let q ← h.toPattern right
  if ← h.equalPattern p q then
    return .equality (some do h.checkHashablePattern p; h.checkHashablePattern q)
  else return .equality none

def builtPattern? (h : Heap) : Value → Option Pattern
  | .ref a => match h.cell a with
    | .pattern p _ => some p
    | _ => none
  | _ => none

def copyPattern (h : Heap) (v : Value) (changes : List (String × Value)) : Except Fault Answer :=
  match builtPattern? h v with
  | none => .error .notReplaceable
  | some p => do
    let q ← h.replaceFields p changes
    let o ← q.outline h
    return .copy o (← h.equalPattern q p)

/-- The answer to a command that only reads the heap. -/
def query (h : Heap) : Command → Except Fault Answer
  | normalize v => do
    let p ← h.toPattern v
    let o ← p.outline h
    return .outline o (← h.displayPattern p (h.provenance v))
  | equal v w => compare h v w
  | replace v changes => copyPattern h v changes
  | assign v name deleting => match builtPattern? h v with
    | some p => do p.assignAttribute name deleting; return .done
    | none => do h.assignAttribute v name deleting; return .done
  | inspect v =>
    .ok (.inspection ⟨h.category v, h.isArrayLike v, h.isPlain v, h.renderValue v⟩)
  | literal v => do return .rendered (← h.renderLiteral v)
  | keys ks start => do return .accessors (← accessorSteps h start ks)
  | concat base tails => .ok (.paths (concatSteps base tails))
  | report form field => match form.buildAndAssign field with
    | .ok r => .ok (.report r)
    | .error problems => .ok (.problems problems)
  | environment vars =>
    .ok (.settings (.ofEnvironment fun name => (vars.find? (·.1 = name)).map (·.2)))
  | _ => .ok .done

end Command

namespace Session

def change (s : Session) (result : Except Fault Heap) : Answer × Session :=
  match result with
  | .ok heap => (.done, { s with heap })
  | .error f => (.failed (.fault f), s)

def changeNamed (s : Session) (name : String) (f : Value → Except Fault Heap) : Answer × Session :=
  s.change (s.lookup name >>= f)

def settle {α : Type} (s : Session) (stamp : String) (answer : α → Answer) (r : Run α) :
    Answer × List LogLine × Session :=
  (.ofResult answer r.result, s.logger.noteLines s.heap stamp r.events, s)

/-- Runs one command. Log lines are marked with the time `stamp`. -/
def step (s : Session) (stamp : String) : Command → Answer × List LogLine × Session
  | .check v p => s.settle stamp (fun _ => .done) (s.context.check v p)
  | .accepts v p => s.settle stamp .verdict (s.context.accepts v p)
  | .explain v p => s.settle stamp .report (s.context.explain v p)
  | .matchAt v p path => s.settle stamp (fun _ => .done) (s.context.matchAt v p path)
  | .record r seconds =>
    let (document, heap) := (r.document stamp).run.run s.heap
    let (text, heap) := (r.text (LogRecord.stampOf seconds)).run.run heap
    (.lines document text, [], { s with heap })
  | .bind name v => (.done, [], s.bind name v)
  | .setItem name key v =>
    let (a, s) := s.changeNamed name fun o => s.heap.setItem o key v
    (a, [], s)
  | .append name v =>
    let (a, s) := s.changeNamed name fun o => s.heap.appendItem o v
    (a, [], s)
  | .drop name key =>
    let (a, s) := s.changeNamed name fun o => s.heap.dropItem o key
    (a, [], s)
  | .settings fields => match Settings.ofFields fields with
    | .ok settings => (.done, [], { s with settings })
    | .error f => (.failed (.fault f), [], s)
  | .setup level format =>
    let (logger, result) := s.logger.setup s.settings level format
    let written := (logger.handler.map (·.format)).getD .text
    (.ofResult (fun _ => .logger logger.level written) (result.mapError .fault), [],
      { s with logger })
  | .log name level message extras =>
    let r : LogRecord :=
      { logger := Logger.childName name, level, template := message, arguments := [], extras,
        exception := .none }
    match s.logger.emit s.heap stamp r with
    | .ok lines => (.done, lines, s)
    | .error f => (.failed (.fault f), [], s)
  | c => (.ofExcept (c.query s.heap), [], s)

/-- The texts of the lines that went to the newest stream, once there is one. -/
def newestLines? (s : Session) (lines : List LogLine) : Option (List String) :=
  if s.logger.streams = 0 then none
  else some ((lines.filter (·.stream = s.logger.streams)).map (·.text))

end Session
end Conformance
