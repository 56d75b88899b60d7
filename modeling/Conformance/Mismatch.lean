import Conformance.Fault

/-!
# Mismatches

A mismatch is the single verdict of a failed match: a reason, and the path from the root of the
value to the divergence. `Failure` is either a mismatch or a fault.
-/

namespace Conformance

inductive Reason where
  /-- Something was expected and something else was found. -/
  | expected (wanted found : String)
  /-- An instance of a class was expected. -/
  | expectedInstance (className : String)
  | notPlain
  | unknownKey
  | missingKey (name : String)
  | noChoice
  | rejected
  /-- A reason that a predicate gave. -/
  | stated (text : String)
deriving DecidableEq

def Reason.text : Reason → String
  | expected wanted found => "Expected " ++ wanted ++ ", got " ++ found
  | expectedInstance name => "Expected " ++ name
  | notPlain => "Expected plain object"
  | unknownKey => "Unknown key"
  | missingKey name => "Missing key '" ++ name ++ "'"
  | noChoice => "Failed OneOf validation"
  | rejected => "Failed Where validation"
  | stated text => text

structure Mismatch where
  reason : Reason
  path : String
deriving DecidableEq

namespace Mismatch

def message (m : Mismatch) : String :=
  "Match error: " ++ m.reason.text ++ (if m.path = "" then "" else " in field " ++ m.path)

def display (m : Mismatch) : String :=
  "StructuralMismatch(reason=" ++ Text.display m.reason.text ++ ", path=" ++
    Text.display m.path ++ ")"

theorem message_root (r : Reason) : (Mismatch.mk r "").message = "Match error: " ++ r.text := by
  simp [message]

end Mismatch

inductive Failure where
  | mismatch (m : Mismatch)
  | fault (f : Fault)
deriving DecidableEq

namespace Failure

def kind : Failure → String
  | mismatch _ => "StructuralMismatch"
  | fault f => f.kind

def message? : Failure → Option String
  | mismatch m => some m.message
  | fault f => f.message?

def display : Failure → String
  | mismatch m => m.display
  | fault f => f.kind ++ "(" ++ (f.message?.map Text.display).getD "" ++ ")"

/-- The classes of a failure, from its own to the most general one. -/
def lineage (e : Failure) : List String :=
  let general := ["Exception", "BaseException", "object"]
  match e with
  | mismatch _ => e.kind :: "ValueError" :: general
  | fault (.badPattern _) => e.kind :: "TypeError" :: general
  | fault _ => e.kind :: general

end Failure
end Conformance
