import Conformance.Fault
import Conformance.Heap.Kind

/-!
# Equality of values

Numbers are equal by exact value whatever their type, texts by content, and objects by their parts
within a family of types. Inside an object, a part equals itself even if it is not a number. Objects
without parts are equal only if they are the same object. The comparison fails when objects are
nested too deeply.
-/

namespace Conformance

/-! ### Families -/

inductive SequenceFamily where
  | list | tuple | deque | set
deriving DecidableEq, Repr

def SequenceKind.family : SequenceKind → SequenceFamily
  | list | derivedList | callableList | userList => .list
  | tuple | point => .tuple
  | deque => .deque
  | set | frozenset => .set

/-- Does the second of two sequences lead their comparison? One of a derived type does if the other
is not, and an object that wraps a list leads one that is of no derived type. -/
def SequenceKind.yieldsTo : SequenceKind → SequenceKind → Bool
  | list, derivedList | list, callableList | list, userList => true
  | userList, derivedList | userList, callableList => true
  | tuple, point => true
  | _, _ => false

def DictKind.isDerived : DictKind → Bool
  | plain | proxy | user => false
  | _ => true

/-- Does the second of two dictionaries lead their comparison? An object that wraps a dictionary
leads all that do not, and a view or one of a derived type leads those that are of no derived
type. -/
def DictKind.yieldsTo (j k : DictKind) : Bool :=
  j ≠ .user && (k = .user || (!j.isDerived && (k.isDerived || k = .proxy)))

/-- Does the order of entries count when two dictionaries are compared? -/
def DictKind.comparesOrder (j k : DictKind) : Bool := j = .ordered && k = .ordered

/-! ### Values without parts -/

namespace Value

def equalRange (a b c d e f : Int) : Bool :=
  let n := rangeLength a b c
  n = rangeLength d e f && (n = 0 || (a = d && (n = 1 || c = f)))

/-- Equality of two values at least one of which is complete in itself. -/
def equalSimple (v w : Value) : Bool :=
  match v.number?, w.number? with
  | some x, some y => x.equal y
  | none, none => match v.text?, w.text? with
    | some s, some t => s = t
    | none, none => match v, w with
      | range a b c, range d e f => equalRange a b c d e f
      | union a b, union c d => (a = c && b = d) || (a = d && b = c)
      | v, w => v = w
    | _, _ => false
  | _, _ => false

end Value

/-! ### Patterns -/

mutual

/-- Equality of patterns: the same variant with equal fields. Operands are compared by `eq`. -/
def Pattern.equalWith (eq : Value → Value → Except Fault Bool) :
    Pattern → Pattern → Except Fault Bool
  | .any, .any => .ok true
  | .literal v, .literal w => eq v w
  | .typeTag o j, .typeTag p k => .ok (o = p && j = k)
  | .integer, .integer => .ok true
  | .objectTag, .objectTag => .ok true
  | .arrayTag, .arrayTag => .ok true
  | .functionTag, .functionTag => .ok true
  | .dateTag, .dateTag => .ok true
  | .regexTag, .regexTag => .ok true
  | .instanceOf v, .instanceOf w => eq v w
  | .arrayOf p, .arrayOf q => p.equalWith eq q
  | .object u fields, .object u' fields' =>
    if u = u' then Pattern.equalFields eq fields fields' else .ok false
  | .objectWithValues p, .objectWithValues q => p.equalWith eq q
  | .wrap o w p, .wrap o' w' q => if o = o' ∧ w = w' then p.equalWith eq q else .ok false
  | .oneOf ps, .oneOf qs => Pattern.equalChoices eq ps qs
  | .satisfies v, .satisfies w => eq v w
  | .foreign _ m, .foreign _ n => .ok (m = n)
  | _, _ => .ok false
termination_by structural p => p

def Pattern.equalFields (eq : Value → Value → Except Fault Bool) :
    List (String × Pattern) → List (String × Pattern) → Except Fault Bool
  | [], [] => .ok true
  | (m, p) :: ps, (n, q) :: qs =>
    if m = n then do
      if ← p.equalWith eq q then Pattern.equalFields eq ps qs else return false
    else .ok false
  | _, _ => .ok false
termination_by structural ps => ps

def Pattern.equalChoices (eq : Value → Value → Except Fault Bool) :
    List Pattern → List Pattern → Except Fault Bool
  | [], [] => .ok true
  | p :: ps, q :: qs => do
    if ← p.equalWith eq q then Pattern.equalChoices eq ps qs else return false
  | _, _ => .ok false
termination_by structural ps => ps

end

/-! ### Parts -/

def equalItems (eq : Value → Value → Except Fault Bool) :
    List Value → List Value → Except Fault Bool
  | [], [] => .ok true
  | v :: vs, w :: ws => do if ← eq v w then equalItems eq vs ws else return false
  | _, _ => .ok false

def lookupEntry (eq : Value → Value → Except Fault Bool) (key : Value) :
    List (Value × Value) → Except Fault (Option Value)
  | [] => .ok none
  | (k, v) :: rest => do if ← eq k key then return some v else lookupEntry eq key rest

/-- Does every entry of the first list occur in the second? -/
def entriesWithin (eq : Value → Value → Except Fault Bool) (bs : List (Value × Value)) :
    List (Value × Value) → Except Fault Bool
  | [] => .ok true
  | (k, v) :: rest => do
    match ← lookupEntry eq k bs with
    | some w => if ← eq v w then entriesWithin eq bs rest else return false
    | none => return false

def itemsWithin (eq : Value → Value → Except Fault Bool) (ws : List Value) :
    List Value → Except Fault Bool
  | [] => .ok true
  | v :: rest => do if ← ws.anyM (eq v) then itemsWithin eq ws rest else return false

/-- Equality of sequences of one family. The lengths are compared first, but those of tuples after
the items that both have. -/
def SequenceFamily.equalWith (eq : Value → Value → Except Fault Bool) (vs ws : List Value) :
    SequenceFamily → Except Fault Bool
  | tuple => equalItems eq vs ws
  | set => if vs.length = ws.length then itemsWithin eq ws vs else .ok false
  | _ => if vs.length = ws.length then equalItems eq vs ws else .ok false

def equalEntries (eq : Value → Value → Except Fault Bool) (inOrder : Bool)
    (as bs : List (Value × Value)) : Except Fault Bool :=
  if as.length ≠ bs.length then .ok false
  else do
    if ← entriesWithin eq bs as then
      if inOrder then equalItems eq (as.map (·.1)) (bs.map (·.1)) else return true
    else return false

/-- Equality of two objects of a heap whose parts are compared by `eq`. The parts of the object that
leads the comparison are gone through in their order, so it decides which fault shows. -/
def Cell.equalWith (eq : Value → Value → Except Fault Bool) : Cell → Cell → Except Fault Bool
  | .sequence j vs, .sequence k ws =>
    if j.family ≠ k.family then .ok false
    else if j.yieldsTo k then j.family.equalWith eq ws vs
    else j.family.equalWith eq vs ws
  | .dict j as, .dict k bs =>
    if j.yieldsTo k then equalEntries eq (j.comparesOrder k) bs as
    else equalEntries eq (j.comparesOrder k) as bs
  | .byteArray s, .byteArray t => .ok (s = t)
  | .pattern p _, .pattern q _ => p.equalWith eq q
  | _, _ => .ok false

namespace Heap

/-- Equality of values. The first argument bounds how deeply objects are nested. -/
def equalAt (h : Heap) : Nat → Value → Value → Except Fault Bool
  | 0, _, _ => .error .nestingLimit
  | depth + 1, v, w => match v, w with
    | .ref a, .ref b =>
      if a = b then .ok true
      else (h.cell a).equalWith (fun x y => if x = y then .ok true else h.equalAt depth x y)
        (h.cell b)
    | v, w => match h.byteContent? v, h.byteContent? w with
      | some s, some t => .ok (s = t)
      | _, _ => if v.refusesComparison w then .error .incomparable else .ok (v.equalSimple w)

def equal (h : Heap) (v w : Value) : Except Fault Bool := h.equalAt nestingLimit v w

def equalPart (h : Heap) (v w : Value) : Except Fault Bool :=
  if v = w then .ok true else h.equal v w

def equalPattern (h : Heap) (p q : Pattern) : Except Fault Bool := p.equalWith h.equalPart q

end Heap
end Conformance
