import Conformance.Proofs.CallOrder
import Conformance.Proofs.Transparency

/-!
# Predicates that ask the library

A predicate may ask the library for verdicts itself, on any values and patterns, and so lead to
calls of further predicates. A script says what a predicate does. All calls of a run, those within
calls included, stand in one list, in the order in which they happen. A call that raises a fault is
where the list ends, but for the calls that it made itself, and where every way to ask for a verdict
ends.
-/

namespace Conformance

/-! ### Scripts -/

inductive Way where
  | check | accepts | explain

/-- What a way to ask returns. A predicate may catch the mismatch that a check fails with. -/
abbrev Way.Answer : Way → Type
  | check => Option Mismatch
  | accepts => Bool
  | explain => Report

def Context.ask (c : Context) (v raw : Value) : (way : Way) → Run way.Answer
  | .check => ((c.check v raw).andThen fun _ => Run.ok none).recover fun m => Run.ok (some m)
  | .accepts => c.accepts v raw
  | .explain => c.explain v raw

/-- What a predicate does with its argument: it asks for verdicts and goes by the answers, and
returns or fails in the end. -/
inductive Script where
  | done (answer : Value)
  | fail (e : Failure)
  | ask (way : Way) (v raw : Value) (next : way.Answer → Script)

namespace Script

def run (c : Context) : Script → Run Value
  | done answer => Run.ok answer
  | fail e => Run.fail e
  | ask way v raw next => (c.ask v raw way).andThen fun a => (next a).run c

/-- The values that the script asks about, each with a raw pattern, in order. -/
def asked (c : Context) : Script → List (Value × Value)
  | done _ => []
  | fail _ => []
  | ask way v raw next => (v, raw) :: match (c.ask v raw way).result with
    | .ok a => (next a).asked c
    | .error _ => []

end Script

/-! ### Settings -/

/-- What matching depends on where predicates follow scripts. -/
structure Setting where
  heap : Heap
  notesMismatches : Bool
  coreVersion : String
  /-- What a value that is called does with its argument. -/
  script : Value → Value → Script

/-- A call at a depth: how deep other calls may nest in it, what is called, and the argument. -/
structure Invocation where
  depth : Nat
  predicate : Value
  argument : Value
deriving DecidableEq

namespace Setting

/-- Calls a value. The first argument bounds how deeply calls are nested. -/
def call (s : Setting) : Nat → Value → Value → Run Value
  | 0, _, _ => Run.fault .nestingLimit
  | depth + 1, f, x => (Run.record (.called f x)).andThen fun _ =>
    (s.script f x).run ⟨s.heap, s.notesMismatches, s.coreVersion, s.call depth⟩

def context (s : Setting) (depth : Nat) : Context :=
  ⟨s.heap, s.notesMismatches, s.coreVersion, s.call depth⟩

/-- The calls that a match of the value against the raw pattern comes to, those within calls
included, in order. -/
def invocations (s : Setting) : Nat → Value → Value → List Invocation
  | 0, _, _ => []
  | depth + 1, v, raw =>
    match s.heap.toPattern raw with
    | .error _ => []
    | .ok p => (p.calls (s.context (depth + 1)) v).flatMap fun e =>
      ⟨depth, e.1, e.2⟩ :: ((s.script e.1 e.2).asked (s.context depth)).flatMap fun a =>
        s.invocations depth a.1 a.2

/-- What is called in these calls, and on which argument. -/
def called (s : Setting) (depth : Nat) (v raw : Value) : List (Value × Value) :=
  (s.invocations depth v raw).map fun i => (i.predicate, i.argument)

def perform (s : Setting) (i : Invocation) : Run Value :=
  (s.script i.predicate i.argument).run (s.context i.depth)

def within (s : Setting) (i : Invocation) : List Invocation :=
  ((s.script i.predicate i.argument).asked (s.context i.depth)).flatMap fun a =>
    s.invocations i.depth a.1 a.2

end Setting

/-! ### Calls among the events -/

/-- What is called, and on which argument, if the event is a call. -/
def Event.call? : Event → Option (Value × Value)
  | called f x => some (f, x)
  | noted _ => none

def Run.calls {α : Type} (r : Run α) : List (Value × Value) := r.events.filterMap Event.call?

namespace Run

variable {α β : Type}

theorem andThen_calls_of_ok {r : Run α} {next : α → Run β} {a : α} (h : r.result = .ok a) :
    (r.andThen next).calls = r.calls ++ (next a).calls := by
  rw [calls, andThen_events_of_ok h, List.filterMap_append]
  rfl

theorem andThen_calls_of_error {r : Run α} {next : α → Run β} {e : Failure}
    (h : r.result = .error e) : (r.andThen next).calls = r.calls := by
  rw [calls, andThen_events_of_error h]
  rfl

theorem andThen_calls_eq_self {r : Run α} {next : α → Run β} (h : ∀ a, (next a).calls = []) :
    (r.andThen next).calls = r.calls := by
  cases hr : r.result with
  | error e => exact andThen_calls_of_error hr
  | ok a => rw [andThen_calls_of_ok hr, h, List.append_nil]

theorem recover_calls_eq_self {r : Run α} {handler : Mismatch → Run α}
    (h : ∀ m, (handler m).calls = []) : (r.recover handler).calls = r.calls := by
  rcases hr : r.result with (m | f) | a
  · have hevents : (r.recover handler).events = r.events ++ (handler m).events := by
      simp only [recover, hr]
    rw [calls, hevents, List.filterMap_append]
    exact (congrArg (r.calls ++ ·) (h m)).trans (List.append_nil _)
  · simp only [recover, hr]
  · simp only [recover, hr]

end Run

namespace Context

variable {c : Context} {v raw : Value}

theorem check_calls (c : Context) (v raw : Value) :
    (c.check v raw).calls = (c.matchAt v raw "").calls := by
  cases hp : c.heap.toPattern raw with
  | error f => rw [check_of_error hp, matchAt_of_error hp]
  | ok p =>
    rw [matchAt_eq hp, check, hp, Run.lift_ok, Run.bind_eq, Run.andThen_ok]
    refine Run.recover_calls_eq_self fun m => ?_
    cases c.notesMismatches <;> rfl

theorem accepts_calls (c : Context) (v raw : Value) :
    (c.accepts v raw).calls = (c.matchAt v raw "").calls := by
  rw [accepts, Run.recover_calls_eq_self fun _ => rfl, Run.bind_eq,
    Run.andThen_calls_eq_self fun _ => rfl]

theorem explain_calls (c : Context) (v raw : Value) :
    (c.explain v raw).calls = (c.matchAt v raw "").calls := by
  rw [explain, Run.recover_calls_eq_self fun _ => rfl, Run.bind_eq,
    Run.andThen_calls_eq_self fun _ => rfl]

theorem ask_calls (way : Way) : (c.ask v raw way).calls = (c.matchAt v raw "").calls := by
  cases way with
  | check =>
    rw [ask, Run.recover_calls_eq_self fun _ => rfl, Run.andThen_calls_eq_self fun _ => rfl,
      check_calls]
  | accepts => exact accepts_calls c v raw
  | explain => exact explain_calls c v raw

theorem ask_fault {p : Pattern} {f : Fault} (hp : c.heap.toPattern raw = .ok p)
    (hf : (p.matcher c v "").result = .error (.fault f)) (way : Way) :
    (c.ask v raw way).result = .error (.fault f) := by
  cases way with
  | check =>
    have hcheck : (c.check v raw).result = .error (.fault f) := (check_result hp).trans hf
    rw [ask, Run.recover_result_fault_iff, Run.andThen_result_error_iff]
    exact .inl (.inl hcheck)
  | accepts => rw [ask, accepts_result hp, hf]
  | explain => rw [ask, explain_result hp, hf]

end Context

theorem Script.run_calls (c : Context) (script : Script) :
    (script.run c).calls = (script.asked c).flatMap fun a => (c.matchAt a.1 a.2 "").calls := by
  induction script with
  | done answer => rfl
  | fail e => rfl
  | ask way v raw next ih =>
    -- what is asked next depends on the answer, and so does the list
    rw [run, asked, List.flatMap_cons]
    cases hr : (c.ask v raw way).result with
    | error e =>
      rw [Run.andThen_calls_of_error hr, Context.ask_calls]
      exact (List.append_nil _).symm
    | ok a => rw [Run.andThen_calls_of_ok hr, Context.ask_calls, ih]

/-- Where a match that is asked about ends in a fault, nothing else is asked, and the script ends in
the fault. -/
theorem Script.fault_of_asked {c : Context} {script : Script} {before after : List (Value × Value)}
    {a : Value × Value} {p : Pattern} {f : Fault} (ha : script.asked c = before ++ a :: after)
    (hp : c.heap.toPattern a.2 = .ok p) (hf : (p.matcher c a.1 "").result = .error (.fault f)) :
    after = [] ∧ (script.run c).result = .error (.fault f) := by
  induction script generalizing before with
  | done answer => simp [asked] at ha
  | fail e => simp [asked] at ha
  | ask way v raw next ih =>
    rw [asked] at ha
    rw [run, Run.andThen_result_error_iff]
    obtain ⟨-, hrest⟩ | ⟨rest, -, hrest⟩ := List.cons_eq_append_iff.mp ha
    · obtain ⟨rfl, rfl⟩ := List.cons.inj hrest
      have hresult := Context.ask_fault hp hf way
      rw [hresult]
      exact ⟨rfl, .inl rfl⟩
    · cases hr : (c.ask v raw way).result with
      | error e =>
        rw [hr] at hrest
        simp at hrest
      | ok answer =>
        rw [hr] at hrest
        obtain ⟨hafter, hrun⟩ := ih answer hrest
        exact ⟨hafter, .inr ⟨answer, rfl, hrun⟩⟩

namespace Setting

variable {s : Setting} {depth : Nat} {v raw : Value}

theorem call_succ (f x : Value) :
    (s.context (depth + 1)).call f x =
      (Run.record (.called f x)).andThen fun _ => s.perform ⟨depth, f, x⟩ := rfl

theorem call_calls (f x : Value) :
    ((s.context (depth + 1)).call f x).calls = (f, x) :: (s.perform ⟨depth, f, x⟩).calls := by
  rw [call_succ, Run.andThen_calls_of_ok rfl]
  rfl

theorem matcher_calls (p : Pattern) (c : Context) (v : Value) (path : String) :
    (p.matcher c v path).calls = (p.calls c v).flatMap fun e => (c.call e.1 e.2).calls := by
  rw [Run.calls, Pattern.matcher_events_eq_calls, List.filterMap_flatMap]
  rfl

theorem matchAt_calls (depth : Nat) (v raw : Value) (path : String) :
    ((s.context depth).matchAt v raw path).calls = s.called depth v raw := by
  induction depth generalizing v raw path with
  | zero =>
    cases hp : s.heap.toPattern raw with
    | error f =>
      rw [Context.matchAt_of_error hp]
      rfl
    | ok p =>
      have hnone : ∀ f x, ((s.context 0).call f x).calls = [] := fun f x => rfl
      rw [Context.matchAt_eq hp, matcher_calls]
      simp [hnone, called, invocations]
  | succ depth ih =>
    cases hp : s.heap.toPattern raw with
    | error f =>
      rw [Context.matchAt_of_error hp, called, invocations, hp]
      rfl
    | ok p =>
      rw [Context.matchAt_eq hp, matcher_calls, called, invocations, hp]
      simp only [List.map_flatMap, List.map_cons, call_calls, perform, Script.run_calls, ih, called]

/-- Where a call raises a fault, only calls within it follow, and the match ends in the fault. -/
theorem fault_of_invocation {before after : List Invocation} {i : Invocation} {f : Fault}
    (hi : s.invocations depth v raw = before ++ i :: after)
    (hf : (s.perform i).result = .error (.fault f)) :
    after = s.within i ∧ ∃ p, s.heap.toPattern raw = .ok p ∧
      (p.matcher (s.context depth) v "").result = .error (.fault f) := by
  induction depth generalizing v raw before after with
  | zero => simp [invocations] at hi
  | succ depth ih =>
    cases hp : s.heap.toPattern raw with
    | error g => simp [invocations, hp] at hi
    | ok p =>
      rw [invocations, hp] at hi
      obtain ⟨front, e, back, left, right, hcalls, he, rfl⟩ := exists_split_of_flatMap hi
      -- the call in the match that raises the fault or that the raising call is within
      have hcall : right = s.within i ∧
          (s.perform ⟨depth, e.1, e.2⟩).result = .error (.fault f) := by
        obtain ⟨-, hrest⟩ | ⟨left, -, hrest⟩ := List.cons_eq_append_iff.mp he
        · obtain ⟨rfl, rfl⟩ := List.cons.inj hrest
          exact ⟨rfl, hf⟩
        · obtain ⟨front, a, back, left, right, hasked, ha, rfl⟩ := exists_split_of_flatMap hrest
          obtain ⟨rfl, q, hq, hmatch⟩ := ih ha
          obtain ⟨rfl, hrun⟩ := Script.fault_of_asked hasked hq hmatch
          exact ⟨List.append_nil _, hrun⟩
      obtain ⟨rfl, hperform⟩ := hcall
      have hresult : ((s.context (depth + 1)).call e.1 e.2).result = .error (.fault f) := by
        rw [call_succ, Run.andThen_result_error_iff]
        exact .inr ⟨(), rfl, hperform⟩
      obtain ⟨rfl, hmatch⟩ := Pattern.fault_of_call hcalls hresult
      exact ⟨List.append_nil _, p, rfl, hmatch⟩

/-- Whatever predicates do, the ways to ask for a verdict call them in the same order, that of the
list of calls. A call that raises a fault is the last one but for those within it, so it is the last
of all if it asks for no verdict itself, and the fault is what all ways to ask end in. -/
theorem predicates_called_in_order_until_fault (s : Setting) (depth : Nat) (v raw : Value) :
    (((s.context depth).check v raw).calls = s.called depth v raw ∧
      ((s.context depth).accepts v raw).calls = s.called depth v raw ∧
      ((s.context depth).explain v raw).calls = s.called depth v raw) ∧
    ∀ before i after f, s.invocations depth v raw = before ++ i :: after →
      (s.perform i).result = .error (.fault f) →
        after = s.within i ∧
          ((s.script i.predicate i.argument).asked (s.context i.depth) = [] → after = []) ∧
          ((s.context depth).check v raw).result = .error (.fault f) ∧
          ((s.context depth).accepts v raw).result = .error (.fault f) ∧
          ((s.context depth).explain v raw).result = .error (.fault f) := by
  constructor
  · rw [← matchAt_calls depth v raw ""]
    exact ⟨Context.check_calls _ v raw, Context.accepts_calls _ v raw,
      Context.explain_calls _ v raw⟩
  · intro before i after f hi hf
    obtain ⟨rfl, p, hp, hmatch⟩ := fault_of_invocation hi hf
    refine ⟨rfl, fun hnone => ?_, ?_, ?_, ?_⟩
    · rw [within, hnone, List.flatMap_nil]
    · exact (Context.check_result hp).trans hmatch
    · rw [Context.accepts_result hp, hmatch]
    · rw [Context.explain_result hp, hmatch]

end Setting

/-! ### Predicates of a heap -/

/-- The script without questions that ends as the result says. -/
def Script.ofResult : Except Failure Value → Script
  | .ok answer => .done answer
  | .error e => .fail e

def Predicate.script (argument : Value) : Predicate → Script
  | truthy => .done argument
  | const answer => .done answer
  | check raw => .ask .check argument raw fun
    | none => .done (.bool true)
    | some m => .fail (.mismatch m)
  | checkNone raw => .ask .check argument raw fun
    | none => .done .null
    | some m => .fail (.mismatch m)
  | accepts raw => .ask .accepts argument raw fun verdict => .done (.bool verdict)
  | explain raw => .ask .explain argument raw fun report => .done (.bool report.ok)
  | mismatch reason path => .fail (.mismatch ⟨.stated reason, path⟩)
  | raise kind message => .fail (.fault (.raised kind message))

def Heap.predicate? (h : Heap) : Value → Option Predicate
  | .ref a => match h.cell a with
    | .predicate p => some p
    | _ => none
  | _ => none

/-- What a value that is called does with its argument. Only predicates ask for verdicts; of the
others, a single level of calls shows what they do. -/
def Heap.script (h : Heap) (callee argument : Value) : Script :=
  match h.predicate? callee with
  | some p => p.script argument
  | none => .ofResult (h.callAt false "" 1 callee argument).result

def Heap.setting (h : Heap) (notes : Bool) (version : String) : Setting :=
  ⟨h, notes, version, h.script⟩

namespace Heap

variable {h : Heap} {notes : Bool} {version : String}

theorem check_andThen_eq_ask (c : Context) (v raw answer : Value) :
    ((c.check v raw).andThen fun _ => Run.ok answer) =
      (Script.ask .check v raw fun
        | none => .done answer
        | some m => .fail (.mismatch m)).run c := by
  rw [Script.run, Context.ask]
  rcases hr : (c.check v raw).result with (m | f) | u <;>
    simp [Run.andThen, Run.recover, hr, Script.run, Run.ok, Run.fail]

theorem predicate_answer_eq_run (c : Context) (argument : Value) (p : Predicate) :
    p.answer c argument = (p.script argument).run c := by
  cases p with
  | check raw => exact check_andThen_eq_ask c argument raw (.bool true)
  | checkNone raw => exact check_andThen_eq_ask c argument raw .null
  | _ => rfl

theorem eq_run_ofResult (c : Context) {r : Run Value} (h : r.events = []) :
    r = (Script.ofResult r.result).run c := by
  obtain ⟨events, result⟩ := r
  cases h
  cases result <;> rfl

theorem function_answer_events (argument : Value) (f : Function) :
    (f.answer h argument).events = [] := by
  cases f with
  | length =>
    rw [Function.answer]
    split
    · split <;> rfl
    · rfl
  | _ => rfl

theorem eq_ref_of_predicate? {f : Value} {p : Predicate} (hf : h.predicate? f = some p) :
    ∃ a, f = .ref a ∧ h.cell a = .predicate p := by
  cases f with
  | ref a =>
    rw [predicate?] at hf
    split at hf
    · rename_i q hcell
      cases hf
      exact ⟨a, rfl, hcell⟩
    · cases hf
  | _ => cases hf

/-- What is no predicate does the same at every depth, and calls nothing. -/
theorem exists_callAt_eq {f : Value} (hf : h.predicate? f = none) (x : Value) :
    ∃ r : Run Value, r.events = [] ∧ ∀ notes version depth,
      h.callAt notes version (depth + 1) f x = (Run.record (.called f x)).andThen fun _ => r := by
  cases f with
  | ref a =>
    cases hcell : h.cell a with
    | predicate p => simp [predicate?, hcell] at hf
    | _ =>
      simp only [callAt, hcell, Run.bind_eq]
      split <;> exact ⟨_, rfl, fun _ _ _ => rfl⟩
  | function g => exact ⟨_, function_answer_events x g, fun _ _ _ => rfl⟩
  | classObject k =>
    refine ⟨_, ?_, fun _ _ _ => rfl⟩
    rw [Run.bind_eq, Run.andThen_events_eq_self fun _ => rfl, Run.lift_events]
  | listAlias k =>
    refine ⟨_, ?_, fun _ _ _ => rfl⟩
    rw [Run.bind_eq, Run.andThen_events_eq_self fun _ => rfl, Run.lift_events]
  | _ => exact ⟨_, rfl, fun _ _ _ => rfl⟩

theorem callAt_eq_call (depth : Nat) (f x : Value) :
    h.callAt notes version depth f x = (h.setting notes version).call depth f x := by
  -- the contexts that predicates ask in agree one level down, for all that is called there
  induction depth generalizing f x with
  | zero => rfl
  | succ depth ih =>
    rw [Setting.call]
    cases hf : h.predicate? f with
    | some p =>
      obtain ⟨a, rfl, hcell⟩ := eq_ref_of_predicate? hf
      have hcontext : h.contextAt notes version depth =
          (h.setting notes version).context depth := by
        rw [contextAt, Setting.context]
        congr 1
        exact funext fun f => funext fun x => ih f x
      rw [callAt_predicate hcell, hcontext]
      simp only [setting, script, hf, predicate_answer_eq_run]
      rfl
    | none =>
      obtain ⟨r, hr, hcall⟩ := exists_callAt_eq hf x
      have hresult : ((Run.record (.called f x)).andThen fun _ => r).result = r.result := by
        cases h : r.result <;> simp [Run.andThen, Run.record, h]
      simp only [hcall, setting, script, hf, hresult]
      rw [← eq_run_ofResult _ hr]

theorem context_eq_setting (h : Heap) (notes : Bool) (version : String) :
    h.context notes version = (h.setting notes version).context nestingLimit := by
  rw [context, Setting.context]
  congr 1
  exact funext fun f => funext fun x => callAt_eq_call nestingLimit f x

end Heap

/-- A predicate that raises a fault, one that asks for a verdict which leads to a call of the first,
and a pattern in which the second is a choice for the elements of an array. -/
def nestedCalls : Heap :=
  ⟨#[.predicate (.raise .keyError "lost"),
    .pattern (.wrap .native .optional (.satisfies (.ref 0))) [],
    .predicate (.accepts (.ref 1)),
    .sequence .list [.str "a", .int 1, .int 2],
    .pattern (.arrayOf (.oneOf [.typeTag .native .string, .satisfies (.ref 2)])) []]⟩

theorem nestedCalls_end_in_fault :
    ((nestedCalls.context false "").check (.ref 3) (.ref 4)).calls =
        [(.ref 2, .int 1), (.ref 0, .int 1)] ∧
      ((nestedCalls.context false "").check (.ref 3) (.ref 4)).result =
        .error (.fault (.raised .keyError "lost")) ∧
      ((nestedCalls.context false "").accepts (.ref 3) (.ref 4)).result =
        .error (.fault (.raised .keyError "lost")) ∧
      ((nestedCalls.context false "").explain (.ref 3) (.ref 4)).result =
        .error (.fault (.raised .keyError "lost")) := by
  have hcalls : (nestedCalls.setting false "").invocations nestingLimit (.ref 3) (.ref 4) =
      [⟨nestingLimit - 1, .ref 2, .int 1⟩] ++ ⟨nestingLimit - 2, .ref 0, .int 1⟩ :: [] := by
    decide +kernel
  have horder := Setting.predicates_called_in_order_until_fault (nestedCalls.setting false "")
    nestingLimit (.ref 3) (.ref 4)
  rw [← Heap.context_eq_setting] at horder
  obtain ⟨⟨hcheck, -⟩, hfault⟩ := horder
  refine ⟨?_, (hfault _ _ _ (.raised .keyError "lost") hcalls rfl).2.2⟩
  rw [hcheck, Setting.called, hcalls]
  rfl

end Conformance
