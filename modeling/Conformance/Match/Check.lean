import Conformance.Heap.Conversion
import Conformance.Match.Matcher
import Conformance.Match.Report

/-!
# Checking values

The three ways to ask whether a value conforms to a raw pattern: `check` fails with the mismatch,
`accepts` returns the verdict, and `explain` returns a report. All three turn the raw value into a
pattern first. Faults pass through all of them.
-/

namespace Conformance

namespace Context

/-- Matches a value against a raw pattern from a given path on. -/
def matchAt (c : Context) (v raw : Value) (path : String) : Run Unit := do
  let p ← Run.lift (c.heap.toPattern raw)
  p.matcher c v path

/-- Fails with the mismatch unless the value conforms. The mismatch is noted if the context asks for
it. -/
def check (c : Context) (v raw : Value) : Run Unit := do
  let p ← Run.lift (c.heap.toPattern raw)
  (p.matcher c v "").recover fun m => do
    if c.notesMismatches then Run.record (.noted ⟨m, p.kind⟩)
    Run.fail (.mismatch m)

def accepts (c : Context) (v raw : Value) : Run Bool :=
  (c.matchAt v raw "" >>= fun _ => pure true).recover fun _ => pure false

def explain (c : Context) (v raw : Value) : Run Report :=
  (c.matchAt v raw "" >>= fun _ => pure (Report.conforming c.coreVersion)).recover fun m =>
    pure (Report.diverging c.coreVersion m)

end Context

/-! ### Calls -/

def Predicate.answer (c : Context) (argument : Value) : Predicate → Run Value
  | truthy => pure argument
  | const answer => pure answer
  | check pattern => do c.check argument pattern; return .bool true
  | checkNone pattern => do c.check argument pattern; return .null
  | accepts pattern => do return .bool (← c.accepts argument pattern)
  | explain pattern => do return .bool (← c.explain argument pattern).ok
  | mismatch reason path => Run.mismatch (.stated reason) path
  | raise kind message => Run.fault (.raised kind message)

def Function.answer (h : Heap) (argument : Value) : Function → Run Value
  | length => match h.length? argument with
    | some n =>
      if sizeLimit < n then Run.fault (.conversion (.machineTooSmall .size)) else pure (.int n)
    | none => Run.fault (.noLength (h.fullTypeName argument))
  | _ => pure .null

/-- Calls a value with one argument. The first argument bounds how deeply calls are nested. -/
def Heap.callAt (h : Heap) (notesMismatches : Bool) (coreVersion : String) :
    Nat → Value → Value → Run Value
  | 0, _, _ => Run.fault .nestingLimit
  | depth + 1, callee, argument => do
    Run.record (.called callee argument)
    match callee with
    | .function f => f.answer h argument
    | .classObject k => do return .bool (← Run.lift (h.convert k argument))
    | .listAlias _ => do return .bool (← Run.lift (h.convert .list argument))
    | .ref a => match h.cell a with
      | .predicate p =>
        p.answer ⟨h, notesMismatches, coreVersion, h.callAt notesMismatches coreVersion depth⟩
          argument
      | cell =>
        if cell.classes.contains .callable then
          Run.fault (.conversion (.surplusArguments (cell.typeName ++ ".__call__()") 1 2))
        else Run.fault (.notCallable (h.fullTypeName callee))
    | _ => Run.fault (.notCallable (h.fullTypeName callee))

/-- The context in which predicates call back into the library. -/
def Heap.context (h : Heap) (notesMismatches : Bool) (coreVersion : String) : Context :=
  ⟨h, notesMismatches, coreVersion, h.callAt notesMismatches coreVersion nestingLimit⟩

end Conformance
