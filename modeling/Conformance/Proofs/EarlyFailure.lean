import Conformance.Proofs.CallOrder

/-!
# Failures end a match

A container goes through the entries of a value in order and ends with the first one that fails.
What follows it in the value plays no role: neither what it is, nor how much of it there is, nor
what kind of array holds it. No predicate comes to see it.
-/

namespace Conformance

/-! ### Walks -/

namespace Run

variable {α : Type} {f : α → Run Unit} {xs ys : List α} {i : Nat} {e : Failure}

/-- A walk over the items comes as far as the item at the place and ends there with the failure. -/
structure StopsAt (f : α → Run Unit) (xs : List α) (i : Nat) (e : Failure) : Prop where
  passed : ∀ x ∈ xs.take i, (f x).result = .ok ()
  failing : ∃ x, xs[i]? = some x ∧ (f x).result = .error e

theorem each_result_error_iff_stopsAt :
    (each f xs).result = .error e ↔ ∃ i, StopsAt f xs i e := by
  rw [each_result_error_iff]
  constructor
  · rintro ⟨before, x, after, rfl, hbefore, hx⟩
    refine ⟨before.length, ?_, x, ?_, hx⟩
    · rw [List.take_left]
      exact hbefore
    · rw [List.getElem?_append_right (Nat.le_refl _), Nat.sub_self, List.getElem?_cons_zero]
  · rintro ⟨i, hpassed, x, hi, hx⟩
    refine ⟨xs.take i, x, xs.drop (i + 1), ?_, hpassed, hx⟩
    obtain ⟨hlt, rfl⟩ := List.getElem?_eq_some_iff.mp hi
    rw [← List.drop_eq_getElem_cons hlt, List.take_append_drop]

theorem StopsAt.of_take_eq (h : StopsAt f xs i e) (hagree : ys.take (i + 1) = xs.take (i + 1)) :
    StopsAt f ys i e where
  passed := by
    have hbefore : ys.take i = xs.take i := by
      have htake := congrArg (List.take i) hagree
      rwa [List.take_take, List.take_take, Nat.min_eq_left (Nat.le_succ i)] at htake
    rw [hbefore]
    exact h.passed
  failing := by
    have hitem : ys[i]? = xs[i]? := by
      rw [← List.getElem?_take_of_succ, hagree, List.getElem?_take_of_succ]
    rw [hitem]
    exact h.failing

theorem StopsAt.each_eq_take (h : StopsAt f xs i e) : each f xs = each f (xs.take (i + 1)) := by
  have hagree : (xs.take (i + 1)).take (i + 1) = xs.take (i + 1) := by
    rw [List.take_take, Nat.min_self]
  have hfails : (each f (xs.take (i + 1))).result = .error e :=
    each_result_error_iff_stopsAt.mpr ⟨i, h.of_take_eq hagree⟩
  calc each f xs
      = each f (xs.take (i + 1) ++ xs.drop (i + 1)) := by rw [List.take_append_drop]
    _ = (each f (xs.take (i + 1))).andThen fun _ => each f (xs.drop (i + 1)) := each_append _ _ _
    _ = each f (xs.take (i + 1)) := andThen_of_result_error hfails _

theorem each_events_of_ok (h : ∀ x ∈ xs, (f x).result = .ok ()) :
    (each f xs).events = xs.flatMap fun x => (f x).events := by
  induction xs with
  | nil => rfl
  | cons x xs ih =>
    obtain ⟨hx, hxs⟩ := List.forall_mem_cons.mp h
    rw [each_cons, andThen_events_of_ok hx, ih hxs, List.flatMap_cons]

/-- A walk that stops leaves the events of all items up to this place behind, and no others. -/
theorem StopsAt.events (h : StopsAt f xs i e) :
    (each f xs).events = (xs.take (i + 1)).flatMap fun x => (f x).events := by
  obtain ⟨x, hi, -⟩ := h.failing
  have hsplit : xs.take (i + 1) = xs.take i ++ [x] := by
    rw [List.take_add_one, hi, Option.toList_some]
  have hpassed : (each f (xs.take i)).result = .ok () := each_result_ok_iff.mpr h.passed
  rw [h.each_eq_take, hsplit, each_append, andThen_events_of_ok hpassed,
    each_events_of_ok h.passed, each_cons, each_nil, andThen_ok_unit, List.flatMap_append,
    List.flatMap_singleton]

end Run

/-! ### Entries of containers -/

namespace Pattern

variable {c : Context} {p : Pattern} {v : Value} {path : String} {entries : List (Value × Value)}
  {i : Nat} {e : Failure}

/-- What a container goes through: the elements of an array, each under its index, or the entries of
a plain dictionary. A value of the wrong kind has nothing to go through. -/
def entries? (h : Heap) : Pattern → Value → Option (List (Value × Value))
  | arrayOf _, v =>
    if h.isArrayLike v then
      some ((h.elements v).toList.zipIdx.map fun item => (.int item.2, item.1))
    else none
  | _, v => h.plainEntries? v

def demandAt : Pattern → Value → Demand
  | arrayOf p, _ | objectWithValues p, _ => .conform p
  | object u fields, key => .ofKey u fields key
  | _, _ => .nothing

def stepAt (c : Context) (path : String) (p : Pattern) (entry : Value × Value) : Run Unit :=
  Visit.run c path ⟨entry.1, entry.2, p.demandAt entry.1⟩

theorem openingFlaw?_of_entries? {h : Heap} (hv : p.entries? h v = some entries) :
    p.openingFlaw? h v = none := by
  cases p with
  | arrayOf q =>
    refine openingFlaw?_arrayOf_eq_none_iff.mpr ?_
    by_contra hnot
    rw [entries?, if_neg hnot] at hv
    cases hv
  | _ =>
    refine (openingFlaw?_eq_none_iff (by simp)).mpr ?_
    have hentries : h.plainEntries? v = some entries := hv
    rw [Heap.plainEntries, hentries, Option.getD_some]

theorem visits_of_entries? {h : Heap} (hp : p.isContainer = true)
    (hv : p.entries? h v = some entries) :
    p.visits h v = entries.map fun entry => ⟨entry.1, entry.2, p.demandAt entry.1⟩ := by
  cases p with
  | arrayOf q =>
    rw [entries?] at hv
    split at hv
    · cases hv
      rw [visits, List.map_map]
      rfl
    · cases hv
  | objectWithValues q | object u fields =>
    have hentries : h.plainEntries? v = some entries := hv
    rw [visits, Heap.plainEntries, hentries, Option.getD_some]
    rfl
  | _ => exact absurd hp Bool.false_ne_true

theorem container_matcher_of_entries? (hp : p.isContainer = true)
    (hv : p.entries? c.heap v = some entries) :
    p.matcher c v path =
      (Run.each (p.stepAt c path) entries).andThen fun _ =>
        Run.flaw (p.closingFlaw? c.heap v) path := by
  rw [container_matcher c v path hp, openingFlaw?_of_entries? hv, Run.flaw_none, Run.andThen_ok,
    visits_of_entries? hp hv, Run.each_map]
  rfl

/-- A container fails where it stops, or for something that is missing once all entries pass. -/
theorem container_error_iff_stopsAt (hp : p.isContainer = true)
    (hv : p.entries? c.heap v = some entries) :
    (p.matcher c v path).result = .error e ↔
      (∃ i, Run.StopsAt (p.stepAt c path) entries i e) ∨
        ((∀ entry ∈ entries, (p.stepAt c path entry).result = .ok ()) ∧
          ∃ reason, p.closingFlaw? c.heap v = some reason ∧ e = .mismatch ⟨reason, path⟩) := by
  rw [container_matcher_of_entries? hp hv, Run.unit_andThen_result_error_iff,
    Run.each_result_error_iff_stopsAt, Run.each_result_ok_iff, Run.flaw_result_error_iff]

theorem matcher_eq_each_take (hp : p.isContainer = true) (hv : p.entries? c.heap v = some entries)
    (hstop : Run.StopsAt (p.stepAt c path) entries i e) :
    p.matcher c v path = Run.each (p.stepAt c path) (entries.take (i + 1)) := by
  have hfails : (Run.each (p.stepAt c path) entries).result = .error e :=
    Run.each_result_error_iff_stopsAt.mpr ⟨i, hstop⟩
  rw [container_matcher_of_entries? hp hv, Run.andThen_of_result_error hfails, hstop.each_eq_take]

/-- Where the match of an array or of a dictionary stops at an entry, with a mismatch or a fault,
the rest of the value plays no role. The match ends with this failure; the predicates it has called
are those that the entries up to this one call; and every array or dictionary that begins with the
same entries, whatever its type and whatever follows in it, ends with the same failure after the
same calls. -/
theorem failure_ends_match (c : Context) {p : Pattern} (hp : p.isContainer = true) (path : String)
    {v : Value} {entries : List (Value × Value)} (hv : p.entries? c.heap v = some entries)
    {i : Nat} {e : Failure} (hstop : Run.StopsAt (p.stepAt c path) entries i e) :
    (p.matcher c v path).result = .error e ∧
      (p.matcher c v path).events =
        (entries.take (i + 1)).flatMap (fun entry => (p.stepAt c path entry).events) ∧
      ∀ w others, p.entries? c.heap w = some others →
        others.take (i + 1) = entries.take (i + 1) → p.matcher c w path = p.matcher c v path := by
  have hrun := matcher_eq_each_take hp hv hstop
  refine ⟨(container_error_iff_stopsAt hp hv).mpr (.inl ⟨i, hstop⟩), ?_, ?_⟩
  · rw [hrun, ← hstop.each_eq_take, hstop.events]
  · intro w others hw hagree
    rw [matcher_eq_each_take hp hw (hstop.of_take_eq hagree), hagree, hrun]

end Pattern

/-- A list that a predicate fails on at its second element, and a predicate that raises a fault. -/
def raisingElement : Heap :=
  ⟨#[.sequence .list [.int 0, .int 1, .ref 0, .null], .predicate (.raise .keyError "x")]⟩

theorem raisingElement_ends_match :
    let c := raisingElement.context false ""
    let p := Pattern.arrayOf (.oneOf [.literal (.int 0), .satisfies (.ref 1)])
    (p.matcher c (.ref 0) "r").result = .error (.fault (.raised .keyError "x")) ∧
      (p.matcher c (.ref 0) "r").events = [.called (.ref 1) (.int 1)] ∧
      p.matcher c (.range 0 7 1) "r" = p.matcher c (.ref 0) "r" := by
  have hstop : Run.StopsAt
      ((Pattern.arrayOf (.oneOf [.literal (.int 0), .satisfies (.ref 1)])).stepAt
        (raisingElement.context false "") "r")
      [(.int 0, .int 0), (.int 1, .int 1), (.int 2, .ref 0), (.int 3, .null)] 1
      (.fault (.raised .keyError "x")) :=
    ⟨by decide +kernel, _, rfl, by decide +kernel⟩
  have hentries : (Pattern.arrayOf (.oneOf [.literal (.int 0), .satisfies (.ref 1)])).entries?
      raisingElement (.ref 0) =
        some [(.int 0, .int 0), (.int 1, .int 1), (.int 2, .ref 0), (.int 3, .null)] := rfl
  obtain ⟨hfails, hevents, hsame⟩ :=
    Pattern.failure_ends_match (raisingElement.context false "") rfl "r" hentries hstop
  refine ⟨hfails, ?_, hsame (.range 0 7 1) _ rfl (by decide)⟩
  rw [hevents]
  decide +kernel

end Conformance
