import Conformance.Fault
import Conformance.Heap.Kind

/-!
# Hashable values

A value is hashable unless it is a mutable container or holds one. The check reports the type of the
first part that is not hashable.
-/

namespace Conformance

mutual

/-- The first fault of `check` among the operands of a pattern. -/
def Pattern.checkOperands (check : Value → Except Fault Unit) : Pattern → Except Fault Unit
  | .literal v => check v
  | .instanceOf v => check v
  | .satisfies v => check v
  | .arrayOf p => p.checkOperands check
  | .object _ fields => Pattern.checkFields check fields
  | .objectWithValues p => p.checkOperands check
  | .wrap _ _ p => p.checkOperands check
  | .oneOf choices => Pattern.checkChoices check choices
  | _ => .ok ()
termination_by structural p => p

def Pattern.checkFields (check : Value → Except Fault Unit) :
    List (String × Pattern) → Except Fault Unit
  | [] => .ok ()
  | (_, p) :: rest => do p.checkOperands check; Pattern.checkFields check rest
termination_by structural fields => fields

def Pattern.checkChoices (check : Value → Except Fault Unit) : List Pattern → Except Fault Unit
  | [] => .ok ()
  | p :: rest => do p.checkOperands check; Pattern.checkChoices check rest
termination_by structural choices => choices

end

namespace Heap

/-- Checks that a value is hashable. The first argument bounds how deeply objects are nested. -/
def checkHashableAt (h : Heap) : Nat → Value → Except Fault Unit
  | 0, _ => .error .nestingLimit
  | depth + 1, v => match v with
    | .decimal d => if d.isSignaling then .error .signalingHash else .ok ()
    | .ref a => match h.cell a with
      | .sequence .tuple items | .sequence .point items => items.forM (h.checkHashableAt depth)
      | .sequence .frozenset _ => .ok ()
      | .sequence _ _ | .dict _ _ | .byteArray _ | .inst .number =>
        .error (.unhashable (h.fullTypeName v))
      | .pattern p _ => p.checkOperands (h.checkHashableAt depth)
      | _ => .ok ()
    | _ => .ok ()

def checkHashable (h : Heap) (v : Value) : Except Fault Unit := h.checkHashableAt nestingLimit v

def checkHashablePattern (h : Heap) (p : Pattern) : Except Fault Unit :=
  p.checkOperands h.checkHashable

end Heap
end Conformance
