import Conformance.Proofs.CheckNotes
import Conformance.Proofs.Repertoire
import Conformance.Session.Command

/-!
# The log of a session

A session of a client is a sequence of set-ups and of questions, whose predicates may ask further
questions. Each check in it that ends in a mismatch writes one line to the stream of the newest
set-up, and nothing else writes a line.
-/

namespace Conformance

/-! ### Lines -/

def MismatchNote.line (stamp : String) (n : MismatchNote) : LineFormat → String
  | .document =>
    let quote := Text.Repertoire.ascii.quote
    enclosed "\x7b" "\x7d"
      ([("timestamp", stamp), ("level", "DEBUG"), ("logger", "shapecheck.matcher"),
        ("message", "Match failed: " ++ n.mismatch.message), ("reason", n.mismatch.reason.text),
        ("path", n.mismatch.path), ("pattern_kind", n.patternKind)].map fun f =>
          quote f.1 ++ ": " ++ quote f.2)
  | .text => stamp ++ " [DEBUG   ] shapecheck.matcher: Match failed: " ++ n.mismatch.message

/-- A document is a single line of printable ASCII characters, whatever the note says. -/
theorem MismatchNote.line_document_spelled (stamp : String) (n : MismatchNote) :
    Text.Repertoire.ascii.Spells (n.line stamp .document) := by
  refine .enclosed (by decide) (by decide) fun s hs => ?_
  obtain ⟨f, -, rfl⟩ := List.mem_map.mp hs
  exact .append (.append (.quote f.1) (by decide)) (.quote f.2)

namespace Logger

theorem noteRecord_message (h : Heap) (n : MismatchNote) :
    (noteRecord n).message.run.run h = (.ok ("Match failed: " ++ n.mismatch.message), h) := by
  have htemplate : "Match failed: %s" = "Match failed: " ++ "%s" := by decide
  have hplain : '%' ∉ "Match failed: ".toList := by decide
  have hmessage : (noteRecord n).message =
      Template.message "Match failed: %s" [.str n.mismatch.message] := rfl
  rw [hmessage, htemplate]
  exact Template.message_text h hplain n.mismatch.message

theorem noteRecord_extraDocuments (h : Heap) (n : MismatchNote) :
    (noteRecord n).extraDocuments h LogRecord.documentFields =
      .ok ([("reason", n.mismatch.reason.text), ("path", n.mismatch.path),
        ("pattern_kind", n.patternKind)].map fun f => (f.1, Text.Repertoire.ascii.quote f.2)) := by
  have hnone : (noteRecord n).extraDocuments h ["error", "error_type"] = .ok [] := rfl
  exact LogRecord.extraDocuments_str rfl
    (LogRecord.extraDocuments_str rfl (LogRecord.extraDocuments_str rfl hnone))

theorem noteRecord_write (h : Heap) (stamp : String) (n : MismatchNote) (format : LineFormat) :
    (((noteRecord n).write stamp format).run.run h).1 = .ok (n.line stamp format) := by
  have hlevel : (noteRecord n).levelName = "DEBUG" := by
    have hname : Level.name Level.debug = "DEBUG" := by decide
    exact hname
  have hlogger : (noteRecord n).logger = "shapecheck.matcher" := by
    have hname : childName "matcher" = "shapecheck.matcher" := by decide
    exact hname
  have hmessage := noteRecord_message h n
  cases format with
  | document =>
    have hstyle : DocumentStyle.logLine.repertoire = .ascii := rfl
    rw [LogRecord.write, LogRecord.document_run hmessage (noteRecord_extraDocuments h n) rfl]
    simp only [MismatchNote.line, hstyle, hlevel, hlogger, List.map_cons, List.map_nil,
      List.cons_append, List.nil_append]
  | text =>
    have hmark : " [" ++ LogRecord.padRight "DEBUG" ++ "] " ++ "shapecheck.matcher" ++ ": " ++
        "Match failed: " = " [DEBUG   ] shapecheck.matcher: Match failed: " := by
      decide
    rw [LogRecord.write, LogRecord.text_run hmessage rfl, hlevel, hlogger, MismatchNote.line,
      ← hmark]
    simp only [String.append_assoc]

def lineOf (handler : Handler) (stamp : String) (n : MismatchNote) : LogLine :=
  ⟨handler.stream, n.line stamp handler.format⟩

theorem emit_noteRecord (l : Logger) (h : Heap) (stamp : String) (n : MismatchNote) :
    l.emit h stamp (noteRecord n) =
      .ok (if l.admits Level.debug then l.handler.toList.map (lineOf · stamp n) else []) := by
  have hlevel : (noteRecord n).level = Level.debug := rfl
  have hextras : (noteRecord n).extras.find? (fun e => reservedNames.contains e.1) = none := rfl
  rw [emit, hlevel]
  cases l.admits Level.debug with
  | false => rfl
  | true =>
    simp only [if_true, hextras]
    cases l.handler with
    | none => rfl
    | some handler =>
      simp only [noteRecord_write]
      rfl

theorem noteLines_eq (l : Logger) (h : Heap) (stamp : String) (events : List Event) :
    l.noteLines h stamp events =
      if l.admits Level.debug then
        l.handler.toList.flatMap fun handler => (notes events).map (lineOf handler stamp)
      else [] := by
  simp only [noteLines, emit_noteRecord]
  cases l.admits Level.debug with
  | false => simp
  | true =>
    cases l.handler with
    | none => simp
    | some handler => simp [List.map_eq_flatMap]

end Logger

/-! ### Set-ups -/

def Level.standardNames : List String :=
  ["NOTSET", "DEBUG", "INFO", "WARN", "WARNING", "ERROR", "CRITICAL", "FATAL"]

/-- Of the levels with names only one admits records for debugging. -/
theorem Level.ofName_standard : ∀ name ∈ Level.standardNames,
    (Level.ofName name).map (fun n => decide (Level.effective n ≤ Level.debug)) =
      .ok (decide (name = "DEBUG")) := by
  decide

structure SetUp where
  level : LevelWord
  format : Option String

namespace SetUp

/-- The set-up, or the settings for it, gives the name of a level. -/
def NamesLevel (settings : Settings) (u : SetUp) : Prop :=
  ∃ word, Logger.levelWord settings u.level = .ok word ∧ Text.upper word ∈ Level.standardNames

def isForDebugging (settings : Settings) (u : SetUp) : Bool :=
  match Logger.levelWord settings u.level with
  | .ok word => Text.upper word = "DEBUG"
  | .error _ => false

def form (settings : Settings) (u : SetUp) : LineFormat :=
  .ofSetting (Logger.textOr settings.logFormat u.format)

end SetUp

/-- The logger is as a series of set-ups leaves it: only the newest one counts. -/
structure Logger.Reflects (settings : Settings) (setUps : List SetUp) (l : Logger) : Prop where
  streams : l.streams = setUps.length
  handler : l.handler = setUps.getLast?.map fun u => ⟨u.form settings, setUps.length⟩
  level : ∀ u, setUps.getLast? = some u → l.admits Level.debug = u.isForDebugging settings

namespace Logger

variable {settings : Settings} {setUps : List SetUp} {l : Logger} {u : SetUp}

theorem setup_of_namesLevel (hu : u.NamesLevel settings) :
    ∃ n, decide (Level.effective n ≤ Level.debug) = u.isForDebugging settings ∧
      l.setup settings u.level u.format =
        (⟨n, some ⟨u.form settings, l.streams + 1⟩, l.streams + 1⟩, .ok ()) := by
  obtain ⟨word, hword, hname⟩ := hu
  have hstandard := Level.ofName_standard _ hname
  cases hlevel : Level.ofName (Text.upper word) with
  | error f =>
    rw [hlevel] at hstandard
    cases hstandard
  | ok n =>
    rw [hlevel, Except.map, Except.ok.injEq] at hstandard
    have hresult : (levelWord settings u.level >>= fun word => Level.ofName (Text.upper word)) =
        .ok n := by
      rw [hword]
      exact hlevel
    refine ⟨n, ?_, ?_⟩
    · rw [SetUp.isForDebugging, hword]
      exact hstandard
    · simp only [setup, hresult]
      rfl

theorem reflects_nil : Reflects settings [] {} where
  streams := rfl
  handler := rfl
  level := fun u hu => by cases hu

theorem Reflects.setup (hl : Reflects settings setUps l) (hu : u.NamesLevel settings) :
    Reflects settings (setUps ++ [u]) (l.setup settings u.level u.format).1 := by
  obtain ⟨n, hn, hsetup⟩ := setup_of_namesLevel (l := l) hu
  rw [hsetup]
  refine ⟨?_, ?_, fun newest hnewest => ?_⟩
  · rw [List.length_append, ← hl.streams]
    rfl
  · rw [List.getLast?_concat, List.length_append, ← hl.streams]
    rfl
  · rw [List.getLast?_concat, Option.some.injEq] at hnewest
    rw [← hnewest]
    exact hn

end Logger

/-! ### Sessions -/

/-- What a client asks for: a set-up, or an answer to a question about values in a heap, where
predicates follow scripts. -/
inductive Request where
  | setUp (u : SetUp)
  | ask (heap : Heap) (script : Value → Value → Script) (q : Question)

inductive Outcome where
  | setUp (result : Except Fault Unit)
  | answer (way : Way) (result : Except Failure way.Answer)

def Request.setUp? : Request → Option SetUp
  | setUp u => some u
  | ask _ _ _ => none

def setUpsOf (requests : List (String × Request)) : List SetUp :=
  requests.filterMap fun r => r.2.setUp?

/-- What stays the same in a session: the settings, and how deep calls of predicates may nest. -/
structure Client where
  settings : Settings
  depth : Nat

namespace Client

def setting (k : Client) (heap : Heap) (script : Value → Value → Script) : Setting :=
  ⟨heap, k.settings.logMismatches, k.settings.coreVersion, script⟩

/-- Serves one request: its outcome, the lines that it causes, and the logger after it. -/
def serve (k : Client) (stamp : String) (l : Logger) :
    Request → Outcome × List LogLine × Logger
  | .setUp u =>
    let (after, result) := l.setup k.settings u.level u.format
    (.setUp result, [], after)
  | .ask heap script q =>
    let r := ((k.setting heap script).context k.depth).answer q
    (.answer q.way r.result, l.noteLines heap stamp r.events, l)

/-- Serves requests, each at its time, and returns what each one leads to. -/
def session (k : Client) : Logger → List (String × Request) → List (Outcome × List LogLine)
  | _, [] => []
  | l, (stamp, request) :: rest =>
    let (outcome, lines, after) := k.serve stamp l request
    (outcome, lines) :: k.session after rest

/-- The lines that are due for a request after set-ups: if the newest one is for debugging and
mismatches are to be logged, one for each check that ends in a mismatch, as the checks end. -/
def dueLines (k : Client) (setUps : List SetUp) (stamp : String) : Request → List LogLine
  | .setUp _ => []
  | .ask heap script q =>
    match setUps.getLast? with
    | none => []
    | some u =>
      let s := k.setting heap script
      if k.settings.logMismatches && u.isForDebugging k.settings then
        ((s.inquiries k.depth q).filterMap s.failure?).map fun n =>
          ⟨setUps.length, n.line stamp (u.form k.settings)⟩
      else []

def logging (k : Client) (mismatches : Bool) : Client :=
  { k with settings := { k.settings with logMismatches := mismatches } }

variable {k : Client} {setUps : List SetUp} {l : Logger} {stamp : String} {request : Request}

theorem dueLines_ask {heap : Heap} {script : Value → Value → Script} {q : Question} {u : SetUp}
    (hnewest : setUps.getLast? = some u) :
    k.dueLines setUps stamp (.ask heap script q) =
      if k.settings.logMismatches && u.isForDebugging k.settings then
        (((k.setting heap script).inquiries k.depth q).filterMap
          (k.setting heap script).failure?).map
            (Logger.lineOf ⟨u.form k.settings, setUps.length⟩ stamp)
      else [] := by
  rw [dueLines, hnewest]
  rfl

theorem serve_lines (hl : l.Reflects k.settings setUps) :
    (k.serve stamp l request).2.1 = k.dueLines setUps stamp request := by
  cases request with
  | setUp u => rfl
  | ask heap script q =>
    have hlines : (k.serve stamp l (.ask heap script q)).2.1 =
        l.noteLines heap stamp (((k.setting heap script).context k.depth).answer q).events := rfl
    have hnotes : (k.setting heap script).notesMismatches = k.settings.logMismatches := rfl
    rw [hlines, Logger.noteLines_eq, hl.handler, Setting.answer_notes, hnotes]
    cases hnewest : setUps.getLast? with
    | none => simp [dueLines, hnewest]
    | some u =>
      rw [dueLines_ask hnewest, hl.level u hnewest]
      cases u.isForDebugging k.settings with
      | false => simp
      | true => cases k.settings.logMismatches <;> simp

theorem serve_reflects (hl : l.Reflects k.settings setUps)
    (hrequest : ∀ u, request.setUp? = some u → u.NamesLevel k.settings) :
    (k.serve stamp l request).2.2.Reflects k.settings (setUps ++ request.setUp?.toList) := by
  cases request with
  | setUp u => exact hl.setup (hrequest u rfl)
  | ask heap script q =>
    rw [Request.setUp?, Option.toList, List.append_nil]
    exact hl

theorem session_lines {before after : List (String × Request)} (hl : l.Reflects k.settings setUps)
    (hbefore : ∀ u ∈ setUpsOf before, u.NamesLevel k.settings) :
    ((k.session l (before ++ (stamp, request) :: after))[before.length]?).map (·.2) =
      some (k.dueLines (setUps ++ setUpsOf before) stamp request) := by
  -- the logger after a request reflects one set-up more, or the same ones
  induction before generalizing l setUps with
  | nil =>
    have hlines : (k.serve stamp l request).2.1 = k.dueLines (setUps ++ []) stamp request := by
      rw [List.append_nil]
      exact serve_lines hl
    exact congrArg some hlines
  | cons r before ih =>
    obtain ⟨time, first⟩ := r
    have hsplit : setUpsOf ((time, first) :: before) = first.setUp?.toList ++ setUpsOf before := by
      cases first <;> rfl
    rw [hsplit] at hbefore ⊢
    obtain ⟨hfirst, hrest⟩ := List.forall_mem_append.mp hbefore
    have hafter : (k.serve time l first).2.2.Reflects k.settings (setUps ++ first.setUp?.toList) :=
      serve_reflects hl fun u hu => hfirst u (Option.mem_toList.mpr hu)
    rw [← List.append_assoc]
    exact ih hafter hrest

theorem serve_logging (k : Client) (mismatches : Bool) (stamp : String) (l : Logger)
    (request : Request) :
    ((k.logging mismatches).serve stamp l request).1 = (k.serve stamp l request).1 ∧
      ((k.logging mismatches).serve stamp l request).2.2 = (k.serve stamp l request).2.2 := by
  cases request with
  | setUp u =>
    have hsetup : l.setup (k.logging mismatches).settings u.level u.format =
        l.setup k.settings u.level u.format := by
      have hword : Logger.levelWord (k.logging mismatches).settings u.level =
          Logger.levelWord k.settings u.level := by
        cases u.level <;> rfl
      have hformat : (k.logging mismatches).settings.logFormat = k.settings.logFormat := rfl
      simp only [Logger.setup, hword, hformat]
    simp only [serve, hsetup, and_self]
  | ask heap script q =>
    have hsetting : (k.logging mismatches).setting heap script =
        (k.setting heap script).noting mismatches := rfl
    have halike := (k.setting heap script).context_noting_alike mismatches k.depth
    have hresult := halike.ask_result q.value q.raw q.way
    rw [← hsetting] at hresult
    have hdepth : (k.logging mismatches).depth = k.depth := rfl
    simp only [serve, Context.answer, hdepth, hresult, and_self]

theorem session_logging (k : Client) (mismatches : Bool) (l : Logger)
    (requests : List (String × Request)) :
    ((k.logging mismatches).session l requests).map (·.1) = (k.session l requests).map (·.1) := by
  induction requests generalizing l with
  | nil => rfl
  | cons r rest ih =>
    obtain ⟨stamp, request⟩ := r
    obtain ⟨houtcome, hlogger⟩ := k.serve_logging mismatches stamp l request
    simp only [session, List.map_cons]
    rw [houtcome, hlogger, ih]

/-- Logging of mismatches is exact and inert. In a session in which set-ups name levels, a request
writes one line to the stream of the newest set-up for each check that it leads to and that ends in
a mismatch, in the order in which these checks end, also if the mismatch is absorbed; nothing else
writes a line, and none is written unless mismatches are logged and the newest set-up is for
debugging. A line in document form is printable ASCII. No outcome depends on whether mismatches are
logged. -/
theorem mismatch_log_exact_and_inert (k : Client) (requests : List (String × Request))
    (hlevels : ∀ u ∈ setUpsOf requests, u.NamesLevel k.settings) :
    (∀ before stamp request after, requests = before ++ (stamp, request) :: after →
      ((k.session {} requests)[before.length]?).map (·.2) =
        some (k.dueLines (setUpsOf before) stamp request)) ∧
    (∀ stamp n, ∀ c ∈ (MismatchNote.line stamp n .document).toList,
      0x20 ≤ c.toNat ∧ c.toNat ≤ 0x7E) ∧
    ∀ mismatches, ((k.logging mismatches).session {} requests).map (·.1) =
      (k.session {} requests).map (·.1) := by
  refine ⟨?_, ?_, fun mismatches => k.session_logging mismatches {} requests⟩
  · rintro before stamp request after rfl
    have hbefore : ∀ u ∈ setUpsOf before, u.NamesLevel k.settings := by
      intro u hu
      refine hlevels u ?_
      rw [setUpsOf, List.filterMap_append]
      exact List.mem_append_left _ hu
    exact session_lines Logger.reflects_nil hbefore
  · intro stamp n c hc
    have hadmitted := n.line_document_spelled stamp c hc
    simpa [Text.Repertoire.admits] using hadmitted

end Client

/-! ### Commands -/

namespace Session

def request? (s : Session) : Command → Option Request
  | .setup level format => some (.setUp ⟨level, format⟩)
  | .check v raw => some (.ask s.heap s.heap.script ⟨.check, v, raw⟩)
  | .accepts v raw => some (.ask s.heap s.heap.script ⟨.accepts, v, raw⟩)
  | .explain v raw => some (.ask s.heap s.heap.script ⟨.explain, v, raw⟩)
  | _ => none

def client (s : Session) : Client := ⟨s.settings, nestingLimit⟩

theorem context_eq_client (s : Session) :
    s.context = (s.client.setting s.heap s.heap.script).context s.client.depth :=
  Heap.context_eq_setting s.heap s.settings.logMismatches s.settings.coreVersion

/-- Commands write the lines of their requests, and change nothing but the logger. -/
theorem step_eq_serve {s : Session} {command : Command} {request : Request}
    (hrequest : s.request? command = some request) (stamp : String) :
    (s.step stamp command).2 =
      ((s.client.serve stamp s.logger request).2.1,
        { s with logger := (s.client.serve stamp s.logger request).2.2 }) := by
  have hask : ∀ way v raw, s.logger.noteLines s.heap stamp (s.context.answer ⟨way, v, raw⟩).events =
      (s.client.serve stamp s.logger (.ask s.heap s.heap.script ⟨way, v, raw⟩)).2.1 := by
    intro way v raw
    rw [context_eq_client]
    rfl
  cases command with
  | setup level format =>
    cases hrequest
    rfl
  | check v raw =>
    cases hrequest
    rw [← hask, Context.answer_events]
    rfl
  | accepts v raw =>
    cases hrequest
    rw [← hask]
    rfl
  | explain v raw =>
    cases hrequest
    rw [← hask]
    rfl
  | _ => cases hrequest

end Session

/-- A predicate that checks its argument and passes a mismatch on, a dictionary that the check
rejects, and patterns with the predicate: as a choice before one that accepts, and by itself. -/
def relayedMismatch : Heap :=
  ⟨#[.predicate (.check (.ref 1)),
    .pattern (.object .reject []) [],
    .dict .plain [(.str "\u00e9\n", .null)],
    .pattern (.oneOf [.satisfies (.ref 0), .any]) [],
    .pattern (.satisfies (.ref 0)) []]⟩

def relayedRequest (way : Way) (raw : Value) : Request :=
  .ask relayedMismatch relayedMismatch.script ⟨way, .ref 2, raw⟩

/-- Questions that lead to the check, after a set-up for debugging and after one that is not. -/
def relayedRequests : List (String × Request) :=
  [("1", .setUp ⟨.word "Debug", some "json"⟩), ("2", relayedRequest .accepts (.ref 3)),
    ("3", relayedRequest .check (.ref 4)), ("4", .setUp ⟨.word "info", none⟩),
    ("5", relayedRequest .check (.ref 4))]

theorem relayedRequests_logged :
    let client : Client := ⟨{ logMismatches := true }, nestingLimit⟩
    let lines (i : Nat) := ((client.session {} relayedRequests)[i]?).map (·.2)
    let line (stamp kind : String) : LogLine :=
      ⟨1, MismatchNote.line stamp ⟨⟨.unknownKey, "[\"\u00e9\\n\"]"⟩, kind⟩ .document⟩
    lines 1 = some [line "2" "object_shape"] ∧
      lines 2 = some [line "3" "object_shape", line "3" "where"] ∧ lines 4 = some [] := by
  intro client lines line
  have hlevels : ∀ u ∈ setUpsOf relayedRequests, u.NamesLevel client.settings :=
    List.forall_mem_cons.mpr ⟨⟨"Debug", rfl, by decide⟩,
      List.forall_mem_singleton.mpr ⟨"info", rfl, by decide⟩⟩
  obtain ⟨hlines, -, -⟩ := client.mismatch_log_exact_and_inert relayedRequests hlevels
  let s : Setting := client.setting relayedMismatch relayedMismatch.script
  -- the lines themselves are not evaluated, only the notes that they are made of
  have hdue : ∀ stamp way raw notes, (s.inquiries nestingLimit ⟨way, .ref 2, raw⟩).filterMap
      s.failure? = notes → client.dueLines [⟨.word "Debug", some "json"⟩] stamp
        (relayedRequest way raw) = notes.map fun n => ⟨1, n.line stamp .document⟩ := by
    rintro stamp way raw notes rfl
    have hdebug : SetUp.isForDebugging client.settings ⟨.word "Debug", some "json"⟩ = true := by
      decide
    have hform : SetUp.form client.settings ⟨.word "Debug", some "json"⟩ = .document := by
      decide
    have hnewest : [SetUp.mk (.word "Debug") (some "json")].getLast? =
        some ⟨.word "Debug", some "json"⟩ := rfl
    rw [relayedRequest, Client.dueLines_ask hnewest, hdebug, hform]
    rfl
  have hsecond := hlines (relayedRequests.take 1) "2" _ (relayedRequests.drop 2) rfl
  have hthird := hlines (relayedRequests.take 2) "3" _ (relayedRequests.drop 3) rfl
  have hfifth := hlines (relayedRequests.take 4) "5" _ (relayedRequests.drop 5) rfl
  refine ⟨?_, ?_, ?_⟩
  · have hnotes := hdue "2" .accepts (.ref 3) [⟨⟨.unknownKey, "[\"\u00e9\\n\"]"⟩, "object_shape"⟩]
      (by decide +kernel)
    exact hsecond.trans (congrArg some hnotes)
  · have hnotes := hdue "3" .check (.ref 4) [⟨⟨.unknownKey, "[\"\u00e9\\n\"]"⟩, "object_shape"⟩,
      ⟨⟨.unknownKey, "[\"\u00e9\\n\"]"⟩, "where"⟩] (by decide +kernel)
    exact hthird.trans (congrArg some hnotes)
  · have hnone : client.dueLines (setUpsOf (relayedRequests.take 4)) "5"
        (relayedRequest .check (.ref 4)) = [] := by
      decide
    exact hfifth.trans (congrArg some hnone)

end Conformance
