import Conformance.Heap.Container
import Conformance.Heap.Conversion.Calendar
import Conformance.Heap.Placement
import Conformance.Regex.Parser

/-!
# Values made of parts

Ranges, sets, named pairs, dates and moments are made of a list of parts. The number of parts and
the type and size of each of them are checked, in this order for each part. A regular expression is
made of a text, which is read to find its flaws.
-/

namespace Conformance
namespace Heap

/-- A range of one, two or three integers: an end, a start and an end, or both and a step. -/
def makeRange (h : Heap) (parts : List Value) : Except Fault Value :=
  match parts with
  | [stop] => do return .range 0 (← h.part stop) 1
  | [start, stop] => do return .range (← h.part start) (← h.part stop) 1
  | [start, stop, step] => do
    let start ← h.part start
    let stop ← h.part stop
    let step ← h.part step
    if step = 0 then .error (.conversion .zeroStep) else return .range start stop step
  | parts => .error (.conversion (.rangeArguments parts.length))

def makeSet (h : Heap) (kind : SequenceKind) (items : List Value) : Except Fault Cell := do
  return .sequence kind (Placement.arrange (← h.collectItems items))

def makePoint (parts : List Value) : Except Fault Cell :=
  let callee := "Point.__new__()"
  match parts with
  | [x, y] => .ok (.sequence .point [x, y])
  | [] => .error (.conversion (.missingArguments callee ["x", "y"]))
  | [_] => .error (.conversion (.missingArguments callee ["y"]))
  | parts => .error (.conversion (.surplusArguments callee 3 (parts.length + 1)))

def makeRegex (text : String) : Except Fault Value :=
  match Regex.read text with
  | .ok _ => .ok (.regex text)
  | .error flaw => .error (.notRegex text flaw)

/-! ### Dates -/

def calendarResult {α : Type} : Except CalendarFlaw α → Except Fault α
  | .ok d => .ok d
  | .error flaw => .error (.conversion (.calendar flaw))

/-- The year, month and day of a list of parts, and the parts after them. -/
def leadingDate (h : Heap) (parts : List Value) :
    Except Fault ((Except CalendarFlaw Date) × List Value) := do
  let (ns, rest) ← h.dateParts 1 datePartNames parts
  return (Date.make (ns.getD 0 0) (ns.getD 1 0) (ns.getD 2 0), rest)

def makeDate (h : Heap) (parts : List Value) : Except Fault Value :=
  if 3 < parts.length then .error (.conversion (.surplusParts "arguments" 3 parts.length))
  else do
    let (date, _) ← h.leadingDate parts
    return .date (← calendarResult date)

/-- A moment of three to seven parts. A time zone, which would follow, must not be given. -/
def makeMoment (h : Heap) (parts : List Value) : Except Fault Value :=
  if 9 < parts.length then .error (.conversion (.surplusParts "arguments" 9 parts.length))
  else do
    let (date, rest) ← h.leadingDate parts
    let times ← (rest.take 4).mapM h.datePart
    if 8 < parts.length then
      .error (.conversion (.surplusParts "positional arguments" 8 parts.length))
    else
      let part (i : Nat) : Int := times.getD i 0
      let moment := do Moment.make (← date) (part 0) (part 1) (part 2) (part 3)
      let moment ← calendarResult moment
      match rest.drop 4 with
      | [] | [.null] => return .datetime moment
      | zone :: _ => .error (.conversion (.notZone (h.typeName zone)))

end Heap
end Conformance
