import Conformance.Number.Residue
import Conformance.Value.Basic

/-!
# Places of members

A set of numbers shows its members by their places. The residue of a number says which places it
tries, and it takes the first that is free. As soon as three fifths of the places are taken, there
are four times as many, and the members move there in the order of their places.
-/

namespace Conformance

/-- A choice of places for the members of a set. -/
structure Placement where
  /-- The number of places. -/
  room : Nat
  /-- The members with their places and with the keys that these depend on. -/
  members : List (Nat × Nat × Value)

namespace Placement

def empty : Placement := ⟨8, []⟩

/-- The number that the places of a member depend on: its residue, as a word of 64 bits. -/
def key? (v : Value) : Option Nat := do
  let n := ((← (← v.number?).residue?).emod (Nat.pow 2 64)).toNat
  return if n = Nat.pow 2 64 - 1 then n - 1 else n

def isFree (p : Placement) (place : Nat) : Bool := p.members.all (·.1 ≠ place)

/-- The places that are tried from a place on: ten in a row if there are so many. -/
def row (p : Placement) (start : Nat) : List Nat :=
  if start + 9 < p.room then (List.range 10).map (start + ·) else [start]

/-- The first free place in the rows from `start` on. The start of the next row depends on what is
left of the key. -/
def freePlace (p : Placement) (start left : Nat) : Nat → Nat
  | 0 => start
  | fuel + 1 => match (p.row start).find? p.isFree with
    | some place => place
    | none =>
      let left := left / 32
      p.freePlace ((start * 5 + 1 + left) % p.room) left fuel

/-- Puts a member on the first free place that it tries. Thirteen rows use up a key, and after them
the starts of the rows go through all places. -/
def put (p : Placement) (key : Nat) (v : Value) : Placement :=
  let place := p.freePlace (key % p.room) key (p.room + 13)
  { p with members := (place, key, v) :: p.members }

def inOrder (p : Placement) : List (Nat × Nat × Value) :=
  p.members.mergeSort fun a b => a.1 ≤ b.1

/-- Moves the members to four times as many places, if three fifths of the places are taken. -/
def widen (p : Placement) : Placement :=
  if 5 * p.members.length < 3 * (p.room - 1) then p
  else p.inOrder.foldl (fun q m => q.put m.2.1 m.2.2) ⟨4 * p.room, []⟩

def add (p : Placement) (key : Nat) (v : Value) : Placement := (p.put key v).widen

def values (p : Placement) : List Value := p.members.map (·.2.2)

theorem values_put (p : Placement) (key : Nat) (v : Value) :
    (p.put key v).values = v :: p.values := rfl

theorem inOrder_perm (p : Placement) : (p.inOrder.map (·.2.2)).Perm p.values :=
  (List.mergeSort_perm _ _).map _

theorem values_foldl_put (ms : List (Nat × Nat × Value)) (p : Placement) :
    (ms.foldl (fun q m => q.put m.2.1 m.2.2) p).values.Perm (ms.map (·.2.2) ++ p.values) := by
  induction ms generalizing p with
  | nil => exact .refl _
  | cons m rest ih => exact (ih (p.put m.2.1 m.2.2)).trans List.perm_middle

theorem values_widen (p : Placement) : p.widen.values.Perm p.values := by
  rw [widen]
  split
  · exact .refl _
  · exact (values_foldl_put _ _).trans ((List.append_nil _).symm ▸ p.inOrder_perm)

theorem values_add (p : Placement) (key : Nat) (v : Value) :
    (p.add key v).values.Perm (v :: p.values) := (p.put key v).values_widen

theorem values_foldl_add (ms : List (Nat × Value)) (p : Placement) :
    (ms.foldl (fun q m => q.add m.1 m.2) p).values.Perm (ms.map (·.2) ++ p.values) := by
  induction ms generalizing p with
  | nil => exact .refl _
  | cons m rest ih =>
    exact (ih (p.add m.1 m.2)).trans
      (((values_add p m.1 m.2).append_left _).trans List.perm_middle)

/-- The members of a set in the order in which it shows them: numbers by their places, and all else
in the order in which it was added. -/
def arrange (members : List Value) : List Value :=
  match members.mapM fun v => (key? v).map ((·, v)) with
  | some keyed => ((keyed.foldl (fun p m => p.add m.1 m.2) empty).inOrder).map (·.2.2)
  | none => members

theorem map_of_mapM_key? {members : List Value} {keyed : List (Nat × Value)}
    (h : members.mapM (fun v => (key? v).map ((·, v))) = some keyed) :
    keyed.map (·.2) = members := by
  induction members generalizing keyed with
  | nil => simp_all
  | cons v rest ih =>
    simp only [List.mapM_cons, Option.bind_eq_bind, Option.bind_eq_some_iff, Option.map_eq_some_iff,
      Option.pure_def, Option.some.injEq] at h
    obtain ⟨m, ⟨n, _, rfl⟩, tail, htail, rfl⟩ := h
    rw [List.map_cons, ih htail]

theorem arrange_perm (members : List Value) : (arrange members).Perm members := by
  rw [arrange]
  split
  · next keyed h =>
    have hvalues := (inOrder_perm _).trans (values_foldl_add keyed empty)
    rwa [map_of_mapM_key? h, show empty.values = [] from rfl, List.append_nil] at hvalues
  · exact .refl _

end Placement
end Conformance
