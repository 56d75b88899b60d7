import Conformance.Proofs.EntryPoint
import Conformance.Proofs.MatcherForm
import Mathlib.Control.Monad.Basic

/-!
# Conformance

`Pattern.Conforms` says what it means for a value to conform to a pattern, by recursion on the
pattern and without an order of steps. The main statement is that the verdict of a match, whenever
there is one, is conformance.
-/

namespace Conformance

/-- A number without a fractional part: an integer, or a double that is finite and whose mantissa
has no binary digits behind the point. -/
def Value.HasNoFraction : Value → Prop
  | int _ => True
  | float x =>
    ∃ mantissa scale, x.view = .finite mantissa scale ∧ Nat.pow 2 (-scale).toNat ∣ mantissa
  | _ => False

namespace Pattern

def Conforms (c : Context) : Pattern → Value → Prop
  | any, _ => True
  | literal e, v => c.heap.category v = c.heap.category e ∧ c.heap.equal v e = .ok true
  | typeTag .native k, v => c.heap.category v = k.category
  | integer, v => c.heap.category v = .number ∧ v.HasNoFraction
  | objectTag, v => c.heap.category v = .object
  | arrayTag, v => c.heap.isArrayLike v = true
  | functionTag, v => c.heap.category v = .function
  | dateTag, v => c.heap.isInstance v .datetime = true
  | regexTag, v => c.heap.isInstance v .regex = true
  | instanceOf target, v => c.heap.isInstanceOf v target = .ok true
  | arrayOf p, v => c.heap.isArrayLike v = true ∧ ∀ x ∈ (c.heap.elements v).toList, p.Conforms c x
  | objectWithValues p, v =>
    ∃ entries, c.heap.plainEntries? v = some entries ∧ ∀ e ∈ entries, p.Conforms c e.2
  | object u fields, v =>
    ∃ entries, c.heap.plainEntries? v = some entries ∧
      (∀ e ∈ entries, ∀ q, declared? fields e.1 = some q → q.unwrapped.Conforms c e.2) ∧
      (∀ f ∈ fields, f.2.isWrapped = false → ∃ e ∈ entries, e.1.text? = some f.1) ∧
      (u = .reject → ∀ e ∈ entries, declared? fields e.1 ≠ none)
  | wrap .native w p, v => v = .undefined ∨ (w = .maybe ∧ v = .null) ∨ p.Conforms c v
  | oneOf choices, v => ∃ p, ∃ _ : p ∈ choices, p.Conforms c v
  | satisfies f, v =>
    ∃ answer, (c.call f v).result = .ok answer ∧ c.heap.isTruthy answer = true
  | _, _ => False
termination_by p => sizeOf p
decreasing_by
  · exact sizeOf_lt_of_mem_parts (List.mem_singleton_self p)
  · exact sizeOf_lt_of_mem_parts (List.mem_singleton_self p)
  · exact sizeOf_lt_of_mem_parts (mem_parts_of_declared? ‹_›)
  · exact sizeOf_lt_of_mem_parts (List.mem_singleton_self p)
  · exact sizeOf_lt_of_mem_parts (p := oneOf choices) ‹_›

/-! ### Wrappers -/

theorem excuses_iff {w : Wrapper} {v : Value} :
    Matcher.excuses w v = true ↔ v = .undefined ∨ (w = .maybe ∧ v = .null) := by
  cases w <;> cases v <;> simp [Matcher.excuses]

theorem conforms_wrap_iff {c : Context} {w : Wrapper} {p : Pattern} {v : Value} :
    (wrap .native w p).Conforms c v ↔ Matcher.excuses w v = true ∨ p.Conforms c v := by
  rw [Conforms, excuses_iff, or_assoc]

/-! ### Containers -/

def demandMet (c : Context) (part : Value) : Demand → Prop
  | .conform p => p.Conforms c part
  | .nothing => True
  | .absence => False

theorem conforms_oneOf {c : Context} {choices : List Pattern} {v : Value} :
    (oneOf choices).Conforms c v ↔ ∃ p ∈ choices, p.Conforms c v := by
  simp only [Conforms, exists_prop]

theorem exists_plainEntries_iff {h : Heap} {v : Value} {good : List (Value × Value) → Prop} :
    (∃ entries, h.plainEntries? v = some entries ∧ good entries) ↔
      h.plainEntries? v = some (h.plainEntries v) ∧ good (h.plainEntries v) := by
  rw [Heap.plainEntries]
  cases h.plainEntries? v <;> simp

theorem demandMet_ofKey_iff {c : Context} {u : UnknownKeys} {fields : List (String × Pattern)}
    {key part : Value} :
    demandMet c part (.ofKey u fields key) ↔
      (∀ q, declared? fields key = some q → q.unwrapped.Conforms c part) ∧
        (u = .reject → declared? fields key ≠ none) := by
  cases u <;> cases hd : declared? fields key <;> simp [Demand.ofKey, demandMet, hd]

theorem absent?_eq_none_iff {fields : List (String × Pattern)} {entries : List (Value × Value)} :
    absent? fields entries = none ↔
      ∀ f ∈ fields, f.2.isWrapped = false → ∃ e ∈ entries, e.1.text? = some f.1 := by
  simp [absent?]

/-- A value conforms to a container that finds no flaw in it as a whole if it meets what is asked of
each part. -/
theorem conforms_container_iff {c : Context} {p : Pattern} {v : Value}
    (hp : p.isContainer = true) :
    p.Conforms c v ↔
      p.openingFlaw? c.heap v = none ∧
        (∀ b ∈ p.visits c.heap v, demandMet c b.part b.demand) ∧
        p.closingFlaw? c.heap v = none := by
  cases p with
  | arrayOf p =>
    have hparts : (∀ item ∈ (c.heap.elements v).toList.zipIdx, p.Conforms c item.1) ↔
        ∀ x ∈ (c.heap.elements v).toList, p.Conforms c x := by
      rw [← List.forall_mem_map (f := Prod.fst) (P := fun x => p.Conforms c x), List.zipIdx_map_fst]
    simp only [Conforms, openingFlaw?, visits, closingFlaw?, List.forall_mem_map, demandMet, hparts]
    simp
  | objectWithValues p =>
    rw [openingFlaw?_eq_none_iff (by simp), Conforms, exists_plainEntries_iff]
    simp only [visits, closingFlaw?, List.forall_mem_map, demandMet, and_true]
  | object u fields =>
    rw [openingFlaw?_eq_none_iff (by simp), Conforms, exists_plainEntries_iff]
    simp only [visits, closingFlaw?, List.forall_mem_map, demandMet_ofKey_iff,
      Option.map_eq_none_iff, absent?_eq_none_iff]
    grind
  | _ => exact absurd hp Bool.false_ne_true

/-! ### Leaves -/

theorem isWhole_iff_hasNoFraction (v : Value) : Matcher.isWhole v = true ↔ v.HasNoFraction := by
  cases v with
  | float x =>
    simp only [Matcher.isWhole, Value.HasNoFraction, Double.isWhole]
    cases x.view with
    | finite mantissa scale =>
      simp only [decide_eq_true_eq, Double.View.finite.injEq]
      constructor
      · intro hm
        exact ⟨mantissa, scale, ⟨rfl, rfl⟩, Nat.dvd_of_mod_eq_zero hm⟩
      · rintro ⟨_, _, ⟨rfl, rfl⟩, hd⟩
        exact Nat.mod_eq_zero_of_dvd hd
    | _ => simp
  | _ => simp [Matcher.isWhole, Value.HasNoFraction]

theorem isInstanceOf_classObject (h : Heap) (v : Value) (k : Class) :
    h.isInstanceOf v (.classObject k) = .ok (h.isInstance v k) := rfl

theorem ofInstance_none_iff {h : Heap} {target v : Value} {flaw? : Option Reason}
    (hf : leafFlaw?.ofInstance h target v = .ok flaw?) :
    flaw? = none ↔ h.isInstanceOf v target = .ok true := by
  obtain ⟨belongs, hi, rfl⟩ := ofInstance_ok_iff.mp hf
  cases belongs <;> simp [hi]

theorem agrees_true_iff {h : Heap} {e v : Value} :
    h.agrees v e = .ok true ↔ h.category v = h.category e ∧ h.equal v e = .ok true := by
  rw [Heap.agrees]
  split <;> simp [*]

theorem literal_none_iff {h : Heap} {e v : Value} {flaw? : Option Reason}
    (hf : leafFlaw? h (literal e) v = .ok flaw?) :
    flaw? = none ↔ h.category v = h.category e ∧ h.equal v e = .ok true := by
  rw [← agrees_true_iff]
  rcases leafFlaw?_literal_ok_iff.mp hf with ⟨ha, rfl⟩ | ⟨wanted, ha, -, rfl⟩
  · simp [ha]
  · simp [ha]

theorem conforms_leaf_iff {c : Context} {p : Pattern} {v : Value} (hp : p.isLeaf = true)
    {flaw? : Option Reason} (hf : p.leafFlaw? c.heap v = .ok flaw?) :
    flaw? = none ↔ p.Conforms c v := by
  cases p with
  | any =>
    cases hf
    simp [Conforms]
  | literal e =>
    rw [literal_none_iff hf, Conforms]
  | typeTag o k =>
    cases o with
    | native =>
      cases hf
      simp [Conforms]
    | foreign => cases hf
  | integer =>
    cases hf
    rw [Conforms, ← isWhole_iff_hasNoFraction]
    split <;> simp [*]
  | objectTag =>
    cases hf
    simp [Conforms, leafFlaw?.ofCategory]
  | arrayTag =>
    cases hf
    simp [Conforms]
  | functionTag =>
    cases hf
    simp [Conforms, leafFlaw?.ofCategory]
  | dateTag =>
    rw [ofInstance_none_iff hf, isInstanceOf_classObject, Except.ok.injEq, Conforms]
  | regexTag =>
    rw [ofInstance_none_iff hf, isInstanceOf_classObject, Except.ok.injEq, Conforms]
  | instanceOf target => rw [ofInstance_none_iff hf, Conforms]
  | wrap o w p =>
    cases o with
    | native => exact absurd hp Bool.false_ne_true
    | foreign => cases hf
  | foreign t n => cases hf
  | _ => exact absurd hp Bool.false_ne_true

/-! ### Verdicts -/

theorem visit_run_decides {c : Context} {path : String} {b : Visit}
    (ih : ∀ q, b.demand = .conform q →
      ∀ path, (q.matcher c b.part path).Decides (q.Conforms c b.part)) :
    (b.run c path).Decides (demandMet c b.part b.demand) := by
  cases hd : b.demand with
  | conform q =>
    simp only [Visit.run, hd]
    constructor
    · intro h
      obtain ⟨t, -, ht⟩ := Run.lift_andThen_result_ok_iff.mp h
      exact (ih q hd t).1 ht
    · rintro ⟨m, hm⟩
      rcases Run.lift_andThen_result_error_iff.mp hm with ⟨f, -, hf⟩ | ⟨t, -, ht⟩
      · cases hf
      · exact (ih q hd t).2 ⟨m, ht⟩
  | nothing =>
    simp only [Visit.run, hd]
    refine ⟨fun _ => trivial, ?_⟩
    rintro ⟨m, hm⟩
    cases hm
  | absence =>
    simp only [Visit.run, hd]
    refine ⟨fun h => ?_, fun _ => id⟩
    obtain ⟨t, -, ht⟩ := Run.lift_andThen_result_ok_iff.mp h
    cases ht

theorem container_decides {c : Context} {p : Pattern} {v : Value} {path : String}
    (hp : p.isContainer = true)
    (ih : ∀ q ∈ p.parts, ∀ v path, (q.matcher c v path).Decides (q.Conforms c v)) :
    (p.matcher c v path).Decides (p.Conforms c v) := by
  have hvisit : ∀ b ∈ p.visits c.heap v,
      (b.run c path).Decides (demandMet c b.part b.demand) := fun b hb =>
    visit_run_decides fun q hq path => ih q (mem_parts_of_mem_visits hb hq) b.part path
  rw [conforms_container_iff hp]
  constructor
  · intro h
    obtain ⟨hopening, hvisits, hclosing⟩ := (container_result_ok_iff hp).mp h
    exact ⟨hopening, fun b hb => (hvisit b hb).1 (hvisits b hb), hclosing⟩
  · rintro ⟨m, hm⟩ ⟨hopening, hvisits, hclosing⟩
    rcases (container_result_error_iff hp).mp hm with
      ⟨reason, hr, -⟩ | ⟨-, ⟨before, b, after, heq, -, hb⟩ | ⟨-, reason, hr, -⟩⟩
    · exact absurd (hr.symm.trans hopening) (Option.some_ne_none reason)
    · have hmem : b ∈ p.visits c.heap v := heq ▸ List.mem_append_cons_self
      exact (hvisit b hmem).2 ⟨m, hb⟩ (hvisits b hmem)
    · exact absurd (hr.symm.trans hclosing) (Option.some_ne_none reason)

theorem satisfies_decides (c : Context) (f v : Value) (path : String) :
    ((satisfies f).matcher c v path).Decides ((satisfies f).Conforms c v) := by
  rw [Conforms]
  cases hcall : (c.call f v).result with
  | ok answer =>
    have hm : ((satisfies f).matcher c v path).result =
        (Run.require (c.heap.isTruthy answer) .rejected path).result := by
      simp only [matcher, Matcher.satisfies, Run.bind_eq, Run.recover, Run.andThen, hcall]
    rw [Run.Decides, Run.Diverges, hm]
    cases ht : c.heap.isTruthy answer <;> simp [Run.require, ht]
  | error e =>
    have hm : ∀ u, ((satisfies f).matcher c v path).result ≠ .ok u := by
      cases e <;> simp [matcher, Matcher.satisfies, Run.bind_eq, Run.recover, Run.andThen, hcall]
    exact ⟨fun h => absurd h (hm ()), fun _ h => by simp at h⟩

/-- The verdict of a match, if there is one, tells whether the value conforms: the match succeeds
only if it does, and ends in a mismatch only if it does not. -/
theorem matcher_decides (c : Context) (p : Pattern) (v : Value) (path : String) :
    (p.matcher c v path).Decides (p.Conforms c v) := by
  induction p using formInduction generalizing v path with
  | leaf p hp =>
    constructor
    · intro h
      exact (conforms_leaf_iff hp ((leaf_result_ok_iff hp).mp h)).mp rfl
    · rintro ⟨m, hm⟩ hc
      obtain ⟨reason, hf, -⟩ := (leaf_result_mismatch_iff hp).mp hm
      exact absurd ((conforms_leaf_iff hp hf).mpr hc) (Option.some_ne_none reason)
  | container p hp ih => exact container_decides hp ih
  | wrap w p ih =>
    rw [wrap_matcher, conforms_wrap_iff]
    cases Matcher.excuses w v with
    | true => simp [Run.Decides, Run.Diverges]
    | false => simpa using ih v path
  | oneOf choices ih =>
    rw [conforms_oneOf]
    constructor
    · intro h
      obtain ⟨before, p, after, rfl, -, hp⟩ := oneOf_result_ok_iff.mp h
      have hmem : p ∈ before ++ p :: after := List.mem_append_cons_self
      exact ⟨p, hmem, (ih p hmem v path).1 hp⟩
    · rintro ⟨m, hm⟩ ⟨p, hmem, hp⟩
      -- a mismatch means that all choices failed, also the one that conforms
      have hall := (oneOf_result_mismatch_iff.mp hm).1
      exact (ih p hmem v path).2 (hall p hmem) hp
  | satisfies f => exact satisfies_decides c f v path

end Pattern

/-- Whenever the verdict on a value is returned, it is true exactly if the value conforms. -/
theorem Context.accepts_iff_conforms (c : Context) (v raw : Value) (p : Pattern) (b : Bool)
    (hp : c.heap.toPattern raw = .ok p) (hb : (c.accepts v raw).result = .ok b) :
    b = true ↔ p.Conforms c v := by
  have hdec := p.matcher_decides c v ""
  rw [accepts_result hp] at hb
  rcases hm : (p.matcher c v "").result with (m | f) | u
  · rw [hm] at hb
    cases hb
    have hnot := hdec.2 ⟨m, hm⟩
    exact ⟨fun h => absurd h Bool.false_ne_true, fun h => absurd h hnot⟩
  · rw [hm] at hb
    cases hb
  · rw [hm] at hb
    cases hb
    exact ⟨fun _ => hdec.1 hm, fun _ => rfl⟩

/-- A dictionary that holds a list inside itself and a list without values, and a pattern whose
wrappers meet what they excuse as elements, and a key that is not there. -/
def selfContaining : Heap :=
  ⟨#[.sequence .list [.ref 0, .int 3],
    .sequence .list [.undefined, .null, .int 3],
    .dict .plain [(.str "a", .ref 0), (.str "z", .ref 1)],
    .pattern (.object .allow
      [("a", .arrayOf (.oneOf [.integer, .arrayOf .any])), ("b", .wrap .native .optional .integer),
        ("z", .arrayOf (.oneOf [.wrap .native .optional (.typeTag .native .string),
          .wrap .native .maybe .integer]))])
      []]⟩

theorem selfContaining_conforms :
    ((selfContaining.context false "").accepts (.ref 2) (.ref 3)).result = .ok true ∧
      (Pattern.object .allow
        [("a", .arrayOf (.oneOf [.integer, .arrayOf .any])),
          ("b", .wrap .native .optional .integer),
          ("z", .arrayOf (.oneOf [.wrap .native .optional (.typeTag .native .string),
            .wrap .native .maybe .integer]))]).Conforms
        (selfContaining.context false "") (.ref 2) := by
  have hb : ((selfContaining.context false "").accepts (.ref 2) (.ref 3)).result = .ok true := by
    decide +kernel
  exact ⟨hb, (Context.accepts_iff_conforms _ _ _ _ true rfl hb).mp rfl⟩

end Conformance
