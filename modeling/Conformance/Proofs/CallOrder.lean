import Conformance.Proofs.Divergence
import Mathlib.Data.List.Basic

/-!
# The order of calls

A match calls predicates in an order that the value and the pattern fix: arrays by index, entries as
they were inserted, choices as they were declared, and nothing after the first part that fails or
the first choice that does not. `Pattern.calls` lists the calls in this order, whatever the
predicates do. A fault of one of them is where the list and the match end.
-/

namespace Conformance

/-! ### Lists that are left early -/

section UpTo

variable {α : Type} {stops : α → Bool}

/-- The items up to the first one that stops, which is the last. -/
def upTo (stops : α → Bool) : List α → List α
  | [] => []
  | x :: xs => if stops x then [x] else x :: upTo stops xs

theorem mem_of_mem_upTo {x : α} {xs : List α} (hx : x ∈ upTo stops xs) : x ∈ xs := by
  induction xs with
  | nil => exact hx
  | cons y ys ih =>
    rw [upTo] at hx
    split at hx
    · rw [List.mem_singleton.mp hx]
      exact List.mem_cons_self
    · rcases List.mem_cons.mp hx with rfl | hmem
      · exact List.mem_cons_self
      · exact List.mem_cons_of_mem y (ih hmem)

/-- Nothing follows an item that stops, and no item before the last one stops. -/
theorem upTo_eq_append_cons {x : α} {xs before after : List α}
    (hxs : upTo stops xs = before ++ x :: after) (hx : stops x = true) :
    after = [] ∧ ∃ rest, xs = before ++ x :: rest ∧ ∀ y ∈ before, stops y = false := by
  induction xs generalizing before with
  | nil => simp [upTo] at hxs
  | cons y ys ih =>
    rw [upTo] at hxs
    cases before with
    | nil =>
      cases hy : stops y with
      | true =>
        rw [hy] at hxs
        obtain ⟨rfl, rfl⟩ := List.cons.inj hxs
        exact ⟨rfl, ys, rfl, List.forall_mem_nil _⟩
      | false =>
        rw [hy] at hxs
        obtain ⟨rfl, -⟩ := List.cons.inj hxs
        rw [hy] at hx
        cases hx
    | cons z before =>
      cases hy : stops y with
      | true =>
        rw [hy] at hxs
        simp at hxs
      | false =>
        rw [hy] at hxs
        obtain ⟨rfl, hrest⟩ := List.cons.inj hxs
        obtain ⟨hafter, rest, rfl, hbefore⟩ := ih hrest
        exact ⟨hafter, rest, rfl, List.forall_mem_cons.mpr ⟨hy, hbefore⟩⟩

theorem singleton_eq_append_cons {x y : α} {before after : List α}
    (h : [x] = before ++ y :: after) : y = x ∧ after = [] := by
  obtain ⟨-, htail⟩ | ⟨rest, -, htail⟩ := List.cons_eq_append_iff.mp h
  · obtain ⟨rfl, rfl⟩ := List.cons.inj htail
    exact ⟨rfl, rfl⟩
  · simp at htail

theorem exists_split_of_flatMap {β : Type} {f : α → List β} {xs : List α} {before after : List β}
    {b : β} (h : xs.flatMap f = before ++ b :: after) :
    ∃ front x back left right, xs = front ++ x :: back ∧ f x = left ++ b :: right ∧
      after = right ++ back.flatMap f := by
  induction xs generalizing before with
  | nil => simp at h
  | cons x xs ih =>
    rw [List.flatMap_cons] at h
    rcases List.append_eq_append_iff.mp h with ⟨skipped, rfl, hrest⟩ | ⟨tail, hx, hrest⟩
    · obtain ⟨front, y, back, left, right, rfl, hy, hafter⟩ := ih hrest
      exact ⟨x :: front, y, back, left, right, rfl, hy, hafter⟩
    · cases tail with
      | nil =>
        have hxs : xs.flatMap f = [] ++ b :: after := hrest.symm
        obtain ⟨front, y, back, left, right, rfl, hy, hafter⟩ := ih hxs
        exact ⟨x :: front, y, back, left, right, rfl, hy, hafter⟩
      | cons c tail =>
        obtain ⟨rfl, rfl⟩ := List.cons.inj hrest
        exact ⟨[], x, xs, before, tail, rfl, hx, rfl⟩

end UpTo

/-! ### Events of runs -/

namespace Run

variable {α β : Type}

def diverges (r : Run α) : Bool :=
  match r.result with
  | .error (.mismatch _) => true
  | _ => false

theorem diverges_iff {r : Run α} : r.diverges = true ↔ r.Diverges := by
  rcases h : r.result with (m | f) | a <;> simp [diverges, Diverges, h]

theorem isOk_iff {r : Run Unit} : r.result.isOk = true ↔ r.result = .ok () := by
  cases r.result <;> simp [Except.isOk, Except.toBool]

theorem andThen_events_of_ok {r : Run α} {next : α → Run β} {a : α} (h : r.result = .ok a) :
    (r.andThen next).events = r.events ++ (next a).events := by
  simp only [andThen, h]

theorem andThen_events_of_error {r : Run α} {next : α → Run β} {e : Failure}
    (h : r.result = .error e) : (r.andThen next).events = r.events := by
  simp only [andThen, h]

theorem lift_events (x : Except Fault α) : (lift x).events = [] := by
  cases x <;> rfl

theorem flaw_events (flaw? : Option Reason) (path : String) : (flaw flaw? path).events = [] := by
  cases flaw? <;> rfl

theorem andThen_events_eq_self {r : Run α} {next : α → Run β} (h : ∀ a, (next a).events = []) :
    (r.andThen next).events = r.events := by
  cases hr : r.result with
  | error e => exact andThen_events_of_error hr
  | ok a => rw [andThen_events_of_ok hr, h, List.append_nil]

theorem recover_events (r next : Run α) :
    (r.recover fun _ => next).events =
      if r.diverges then r.events ++ next.events else r.events := by
  rcases h : r.result with (m | f) | a <;> simp [recover, diverges, h]

theorem each_events (f : α → Run Unit) (xs : List α) :
    (each f xs).events =
      (upTo (fun x => !(f x).result.isOk) xs).flatMap fun x => (f x).events := by
  induction xs with
  | nil => rfl
  | cons x xs ih =>
    rw [each_cons, upTo]
    cases hx : (f x).result with
    | error e =>
      rw [andThen_events_of_error hx]
      simp [Except.isOk, Except.toBool]
    | ok u =>
      rw [andThen_events_of_ok hx, ih]
      simp [Except.isOk, Except.toBool]

end Run

/-! ### Calls of a match -/

/-- The match that a visit begins, if it asks for one and gets a path for it. -/
def Visit.subjects (h : Heap) (visit : Visit) : List (Pattern × Value) :=
  match visit.demand, Path.keyAccessor h visit.key with
  | .conform q, .ok _ => [(q, visit.part)]
  | _, _ => []

theorem Visit.eq_of_subjects {h : Heap} {b : Visit} {s : Pattern × Value}
    {before after : List (Pattern × Value)} (hs : b.subjects h = before ++ s :: after) :
    after = [] ∧ b.demand = .conform s.1 ∧ b.part = s.2 ∧
      ∃ accessor, Path.keyAccessor h b.key = .ok accessor := by
  rw [subjects] at hs
  split at hs
  · rename_i q accessor hq hkey
    obtain ⟨rfl, rfl⟩ := singleton_eq_append_cons hs
    exact ⟨rfl, hq, rfl, accessor, hkey⟩
  · simp at hs

namespace Pattern

variable {c : Context} {p : Pattern} {v : Value}

def subjects (c : Context) : Pattern → Value → List (Pattern × Value)
  | wrap .native w p, v => if Matcher.excuses w v then [] else [(p, v)]
  | oneOf choices, v =>
    (upTo (fun p => !(p.matcher c v "").diverges) choices).map fun p => (p, v)
  | p, v =>
    if p.openingFlaw? c.heap v = none then
      (upTo (fun b => !(b.run c "").result.isOk) (p.visits c.heap v)).flatMap
        (Visit.subjects c.heap)
    else []

theorem subjects_container (hp : p.isContainer = true) :
    p.subjects c v =
      if p.openingFlaw? c.heap v = none then
        (upTo (fun b => !(b.run c "").result.isOk) (p.visits c.heap v)).flatMap
          (Visit.subjects c.heap)
      else [] := by
  cases p with
  | arrayOf _ | objectWithValues _ | object _ _ => rfl
  | _ => exact absurd hp Bool.false_ne_true

theorem subjects_leaf (hp : p.isLeaf = true) : p.subjects c v = [] := by
  cases p with
  | arrayOf _ | objectWithValues _ | object _ _ | oneOf _ | satisfies _ =>
    exact absurd hp Bool.false_ne_true
  | wrap o w p =>
    cases o with
    | native => exact absurd hp Bool.false_ne_true
    | foreign => simp [subjects, visits, upTo]
  | _ => simp [subjects, visits, upTo]

theorem subjects_satisfies (f : Value) : (satisfies f).subjects c v = [] := by
  simp [subjects, visits, upTo]

theorem mem_parts_of_mem_subjects {s : Pattern × Value} (hs : s ∈ p.subjects c v) :
    s.1 ∈ p.parts := by
  induction p using formInduction with
  | leaf p hp =>
    rw [subjects_leaf hp] at hs
    exact absurd hs List.not_mem_nil
  | container p hp _ =>
    rw [subjects_container hp] at hs
    split at hs
    · obtain ⟨b, hb, hs⟩ := List.mem_flatMap.mp hs
      obtain ⟨before, after, hsplit⟩ := List.append_of_mem hs
      exact mem_parts_of_mem_visits (mem_of_mem_upTo hb) (Visit.eq_of_subjects hsplit).2.1
    · exact absurd hs List.not_mem_nil
  | wrap w p _ =>
    rw [subjects] at hs
    split at hs
    · exact absurd hs List.not_mem_nil
    · rw [List.mem_singleton.mp hs]
      exact List.mem_singleton_self p
  | oneOf choices _ =>
    obtain ⟨p, hp, rfl⟩ := List.mem_map.mp hs
    exact mem_of_mem_upTo hp
  | satisfies f =>
    rw [subjects_satisfies] at hs
    exact absurd hs List.not_mem_nil

/-- The calls of predicates, each with its argument, that a match of the value comes to, in order. -/
def calls (c : Context) : Pattern → Value → List (Value × Value)
  | satisfies f, v => [(f, v)]
  | p, v => (p.subjects c v).attach.flatMap fun s => s.1.1.calls c s.1.2
termination_by p => sizeOf p
decreasing_by exact sizeOf_lt_of_mem_parts (mem_parts_of_mem_subjects s.2)

theorem calls_eq_flatMap (hp : p.isPredicateFree = true) :
    p.calls c v = (p.subjects c v).flatMap fun s => s.1.calls c s.2 := by
  have hflat : (p.subjects c v).attach.flatMap (fun s => s.1.1.calls c s.1.2) =
      (p.subjects c v).flatMap fun s => s.1.calls c s.2 := by
    rw [List.flatMap_subtype (g := fun s => s.1.calls c s.2) fun _ _ => rfl, List.unattach_attach]
  rw [← hflat]
  cases p with
  | satisfies f => exact absurd hp Bool.false_ne_true
  | _ => simp only [calls]

/-! ### Events of a match -/

theorem matcher_events (p : Pattern) (path : String) :
    (p.matcher c v path).events = (p.matcher c v "").events := by
  rw [matcher_relocate]
  rfl

theorem visit_run_events (b : Visit) :
    (b.run c "").events =
      (b.subjects c.heap).flatMap fun s => (s.1.matcher c s.2 "").events := by
  rw [Visit.run, Visit.subjects]
  cases b.demand with
  | nothing => rfl
  | absence =>
    rw [Run.andThen_events_eq_self fun _ => rfl, Run.lift_events]
    rfl
  | conform q =>
    simp only [Path.lift_join_andThen, Path.concat_empty_left]
    cases Path.keyAccessor c.heap b.key with
    | error f => rfl
    | ok accessor =>
      rw [Run.lift_ok, Run.andThen_ok, matcher_events]
      simp

theorem oneOf_events (choices : List Pattern) :
    ((oneOf choices).matcher c v "").events =
      (upTo (fun p => !(p.matcher c v "").diverges) choices).flatMap fun p =>
        (p.matcher c v "").events := by
  induction choices with
  | nil => rfl
  | cons p rest ih =>
    rw [oneOf_cons_matcher, Run.recover_events, ih, upTo]
    cases (p.matcher c v "").diverges with
    | true => rfl
    | false => simp

theorem matcher_events_eq_flatMap (hp : p.isPredicateFree = true) :
    (p.matcher c v "").events =
      (p.subjects c v).flatMap fun s => (s.1.matcher c s.2 "").events := by
  induction p using formInduction with
  | leaf p hleaf =>
    rw [subjects_leaf hleaf, leaf_matcher c v "" hleaf,
      Run.andThen_events_eq_self fun flaw? => Run.flaw_events flaw? "", Run.lift_events]
    rfl
  | container p hcontainer _ =>
    rw [subjects_container hcontainer, container_matcher c v "" hcontainer]
    cases p.openingFlaw? c.heap v with
    | some reason => rfl
    | none =>
      rw [if_pos rfl, Run.flaw_none, Run.andThen_ok,
        Run.andThen_events_eq_self fun _ => Run.flaw_events _ "", Run.each_events,
        List.flatMap_assoc]
      exact List.flatMap_congr fun b _ => visit_run_events b
  | wrap w p _ =>
    rw [subjects, wrap_matcher]
    split
    · rfl
    · simp
  | oneOf choices _ =>
    rw [subjects, List.flatMap_map]
    exact oneOf_events choices
  | satisfies f => exact absurd hp Bool.false_ne_true

/-- A match leaves the events of its calls behind, in the order of the list. -/
theorem matcher_events_eq_calls (p : Pattern) (v : Value) (path : String) :
    (p.matcher c v path).events = (p.calls c v).flatMap fun e => (c.call e.1 e.2).events := by
  rw [matcher_events]
  induction p using partsInduction generalizing v with
  | step p ih =>
    cases hp : p.isPredicateFree with
    | true =>
      rw [matcher_events_eq_flatMap hp, calls_eq_flatMap hp, List.flatMap_assoc]
      exact List.flatMap_congr fun s hs => ih s.1 (mem_parts_of_mem_subjects hs) s.2
    | false =>
      cases p with
      | satisfies f =>
        have hrequire : ∀ answer, (Run.require (c.heap.isTruthy answer) .rejected "").events = [] :=
          fun answer => by rw [require_eq_flaw, Run.flaw_events]
        rw [calls, List.flatMap_singleton, matcher, Matcher.satisfies,
          Run.bind_eq, Run.andThen_events_eq_self hrequire, Run.recover_mismatch_eq_relocate]
        rfl
      | _ => exact absurd hp Bool.noConfusion

/-! ### Faults of calls -/

theorem fault_of_visit {b : Visit} {q : Pattern} {accessor : String} {f : Fault}
    (hq : b.demand = .conform q) (hkey : Path.keyAccessor c.heap b.key = .ok accessor)
    (hf : (q.matcher c b.part "").result = .error (.fault f)) :
    (b.run c "").result = .error (.fault f) := by
  simp only [Visit.run, hq, Path.lift_join_andThen, Path.concat_empty_left, hkey, Run.lift_ok,
    Run.andThen_ok]
  rw [matcher_relocate]
  exact Run.relocate_result_fault_iff.mpr hf

/-- Where a match that was begun ends in a fault, no other one is begun, and the whole ends in the
fault. -/
theorem fault_of_subject {before after : List (Pattern × Value)} {s : Pattern × Value} {f : Fault}
    (hs : p.subjects c v = before ++ s :: after)
    (hf : (s.1.matcher c s.2 "").result = .error (.fault f)) :
    after = [] ∧ (p.matcher c v "").result = .error (.fault f) := by
  induction p using formInduction with
  | leaf p hleaf => simp [subjects_leaf hleaf] at hs
  | container p hcontainer _ =>
    rw [subjects_container hcontainer] at hs
    cases hopening : p.openingFlaw? c.heap v with
    | some reason => simp [hopening] at hs
    | none =>
      rw [if_pos hopening] at hs
      obtain ⟨front, b, back, left, right, hvisits, hb, rfl⟩ := exists_split_of_flatMap hs
      obtain ⟨rfl, hq, hpart, accessor, hkey⟩ := Visit.eq_of_subjects hb
      -- the visit fails with its match, so it is the last one that the walk comes to
      have hrun : (b.run c "").result = .error (.fault f) :=
        fault_of_visit hq hkey (hpart ▸ hf)
      have hstop : (!(b.run c "").result.isOk) = true := by rw [hrun]; rfl
      obtain ⟨rfl, rest, hsplit, hfront⟩ := upTo_eq_append_cons hvisits hstop
      refine ⟨rfl, (container_result_error_iff hcontainer).mpr (.inr ⟨hopening, .inl ?_⟩)⟩
      exact ⟨front, b, rest, hsplit, fun x hx => Run.isOk_iff.mp (by simpa using hfront x hx), hrun⟩
  | wrap w p _ =>
    rw [subjects] at hs
    cases hexcused : Matcher.excuses w v with
    | true => simp [hexcused] at hs
    | false =>
      rw [wrap_matcher, hexcused]
      rw [hexcused, if_neg Bool.false_ne_true] at hs
      obtain ⟨rfl, rfl⟩ := singleton_eq_append_cons hs
      exact ⟨rfl, hf⟩
  | oneOf choices _ =>
    obtain ⟨front, tail, hchoices, -, htail⟩ := List.map_eq_append_iff.mp hs
    obtain ⟨q, back, rfl, rfl, rfl⟩ := List.map_eq_cons_iff.mp htail
    have hstop : (!(q.matcher c v "").diverges) = true := by
      simp only [Run.diverges, hf, Bool.not_false]
    obtain ⟨rfl, rest, rfl, hfront⟩ := upTo_eq_append_cons hchoices hstop
    refine ⟨rfl, oneOf_result_fault_iff.mpr ⟨front, q, rest, rfl, fun r hr => ?_, hf⟩⟩
    exact Run.diverges_iff.mp (by simpa using hfront r hr)
  | satisfies g => simp [subjects_satisfies] at hs

theorem satisfies_matcher_fault {f : Value} {g : Fault} (hf : (c.call f v).result = .error (.fault g)) :
    ((satisfies f).matcher c v "").result = .error (.fault g) := by
  rw [matcher, Matcher.satisfies, Run.bind_eq, Run.andThen_result_error_iff]
  exact .inl (Run.recover_result_fault_iff.mpr (.inl hf))

/-- Where a call ends in a fault, no other one follows, and the match ends in the fault. -/
theorem fault_of_call {before after : List (Value × Value)} {e : Value × Value} {f : Fault}
    (he : p.calls c v = before ++ e :: after) (hf : (c.call e.1 e.2).result = .error (.fault f)) :
    after = [] ∧ (p.matcher c v "").result = .error (.fault f) := by
  induction p using partsInduction generalizing v before after with
  | step p ih =>
    cases hp : p.isPredicateFree with
    | true =>
      rw [calls_eq_flatMap hp] at he
      obtain ⟨front, s, back, left, right, hs, hcalls, rfl⟩ := exists_split_of_flatMap he
      -- nothing follows the call in its own match, and no match follows this one
      have hmem : s ∈ p.subjects c v := hs ▸ List.mem_append_cons_self
      obtain ⟨rfl, hfault⟩ := ih s.1 (mem_parts_of_mem_subjects hmem) hcalls
      obtain ⟨rfl, hwhole⟩ := fault_of_subject hs hfault
      exact ⟨rfl, hwhole⟩
    | false =>
      cases p with
      | satisfies g =>
        rw [calls] at he
        obtain ⟨rfl, rfl⟩ := singleton_eq_append_cons he
        exact ⟨rfl, satisfies_matcher_fault hf⟩
      | _ => exact absurd hp Bool.noConfusion

end Pattern
end Conformance
