import Conformance.Heap.Display
import Conformance.Heap.Equality
import Conformance.Heap.Hashable

/-!
# Building containers

Dictionaries and sets identify equal keys. A key that is present already keeps its place and its
form, and takes the new value; a new key goes to the end.
-/

namespace Conformance

def insertEntry (eq : Value → Value → Except Fault Bool) (key value : Value) :
    List (Value × Value) → Except Fault (List (Value × Value))
  | [] => .ok [(key, value)]
  | (k, v) :: rest => do
    if ← eq k key then return (k, value) :: rest
    else return (k, v) :: (← insertEntry eq key value rest)

def eraseEntry? (eq : Value → Value → Except Fault Bool) (key : Value) :
    List (Value × Value) → Except Fault (Option (List (Value × Value)))
  | [] => .ok none
  | (k, v) :: rest => do
    if ← eq k key then return some rest
    else return (← eraseEntry? eq key rest).map ((k, v) :: ·)

namespace Heap

def insertKey (h : Heap) (entries : List (Value × Value)) (key value : Value) :
    Except Fault (List (Value × Value)) := do
  h.checkHashable key
  insertEntry h.equalPart key value entries

/-- The items of a set that results from adding items one after the other. -/
def collectItems (h : Heap) (items : List Value) : Except Fault (List Value) :=
  items.foldlM (fun present v => do
    h.checkHashable v
    if ← present.anyM (h.equalPart v) then return present else return present ++ [v]) []

end Heap
end Conformance
