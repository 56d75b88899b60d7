import Conformance.Proofs.Relocation
import Conformance.Proofs.TextFault
import Mathlib.Control.Monad.Basic

/-!
# Stumbling

Where a match of an ordinary pattern ends in a fault: at a literal that cannot be compared with the
value or cannot be written, or at a key that cannot be written. If the match comes to none of these,
there is a verdict.
-/

namespace Conformance

/-! ### Ordinary patterns -/

/-- Is the value a text, a truth value or a number, boxed or not? -/
def Value.isPrimitive : Value → Bool
  | str _ | bool _ | int _ | float _ | boxed _ => true
  | _ => false

namespace Pattern

/-- Is the pattern one of the library's own that calls no predicate, with a primitive for a literal
and a class for a class pattern? -/
def isOrdinary : Pattern → Bool
  | literal e => e.isPrimitive
  | instanceOf (.classObject _) => true
  | instanceOf _ | typeTag .foreign _ | wrap .foreign _ _ | satisfies _ | foreign _ _ => false
  | _ => true

/-! ### Stumbling blocks -/

/-- The match of the value goes through the parts up to the visit. -/
structure ComesTo (c : Context) (p : Pattern) (v : Value) (b : Visit) : Prop where
  opening : p.openingFlaw? c.heap v = none
  split : ∃ before after, p.visits c.heap v = before ++ b :: after ∧
    ∀ a ∈ before, (a.run c "").result = .ok ()

/-- The match of the value comes to something that ends it in the fault. -/
inductive Stumbles (c : Context) : Fault → Pattern → Value → Prop where
  /-- A decimal number that refuses to be compared is compared with a boxed number. -/
  | comparison {b : Boxed} {v : Value} (hb : (Value.boxed b).isReal = true)
    (hv : v.isSignaling = true) : Stumbles c .incomparable (literal (.boxed b)) v
  /-- The value is no match for an integer that has too many digits to be shown. -/
  | wording {e v : Value} {n : Int} (hn : e.integer? = some n) (hsize : IsOversized n)
    (hv : c.heap.agrees v e = .ok false) : Stumbles c .digitLimit (literal e) v
  | key {f : Fault} {p : Pattern} {v : Value} {b : Visit} (hb : p.ComesTo c v b)
    (hd : b.demand ≠ .nothing) (hkey : Path.keyAccessor c.heap b.key = .error f) :
    Stumbles c f p v
  | part {f : Fault} {p q : Pattern} {v : Value} {b : Visit} {accessor : String}
    (hb : p.ComesTo c v b) (hq : b.demand = .conform q)
    (hkey : Path.keyAccessor c.heap b.key = .ok accessor) (h : Stumbles c f q b.part) :
    Stumbles c f p v
  | inner {f : Fault} {w : Wrapper} {p : Pattern} {v : Value} (hv : Matcher.excuses w v = false)
    (h : Stumbles c f p v) : Stumbles c f (wrap .native w p) v
  | choice {f : Fault} {p : Pattern} {v : Value} {before after : List Pattern}
    (hbefore : ∀ q ∈ before, (q.matcher c v "").Diverges) (h : Stumbles c f p v) :
    Stumbles c f (oneOf (before ++ p :: after)) v

variable {c : Context} {f : Fault}

/-- What a match stumbles over is a comparison or a text. -/
theorem Stumbles.incomparable_or_textual {p : Pattern} {v : Value} (h : Stumbles c f p v) :
    f = .incomparable ∨ f.IsTextual := by
  induction h with
  | comparison => exact .inl rfl
  | wording => exact .inr (.inl rfl)
  | key _ _ hkey => exact .inr (Path.keyAccessor_textual c.heap _ _ hkey)
  | part _ _ _ _ ih => exact ih
  | inner _ _ ih => exact ih
  | choice _ _ ih => exact ih

/-! ### Literals -/

theorem isSignaling_of_isPrimitive {e : Value} (he : e.isPrimitive = true) :
    e.isSignaling = false := by
  cases e with
  | decimal d => exact absurd he Bool.false_ne_true
  | _ => rfl

/-- A primitive is compared as a value that is complete in itself. -/
theorem equal_of_isPrimitive {h : Heap} {v e : Value} (he : e.isPrimitive = true) :
    h.equal v e =
      if v.isSignaling && e.isReal then .error .incomparable else .ok (v.equalSimple e) := by
  have hrefuses : v.refusesComparison e = (v.isSignaling && e.isReal) := by
    rw [Value.refusesComparison, isSignaling_of_isPrimitive he, Bool.false_and, Bool.or_false]
  rw [← hrefuses, Heap.equal]
  cases e with
  | str s => cases v <;> simp [nestingLimit, Heap.equalAt, Heap.byteContent?]
  | bool b => cases v <;> simp [nestingLimit, Heap.equalAt, Heap.byteContent?]
  | int n => cases v <;> simp [nestingLimit, Heap.equalAt, Heap.byteContent?]
  | float x => cases v <;> simp [nestingLimit, Heap.equalAt, Heap.byteContent?]
  | boxed b => cases v <;> simp [nestingLimit, Heap.equalAt, Heap.byteContent?]
  | _ => exact absurd he Bool.false_ne_true

theorem exists_decimal_of_isSignaling {v : Value} (hv : v.isSignaling = true) :
    ∃ d, v = .decimal d := by
  cases v with
  | decimal d => exact ⟨d, rfl⟩
  | _ => exact absurd hv Bool.false_ne_true

theorem category_boxed (h : Heap) (b : Boxed) : h.category (.boxed b) = .object := by
  cases b <;> rfl

/-- Decimal numbers are objects, so of all primitives only boxed ones are compared with them. -/
theorem agrees_error_iff {h : Heap} {v e : Value} (he : e.isPrimitive = true) :
    h.agrees v e = .error f ↔
      f = .incomparable ∧ v.isSignaling = true ∧ ∃ b, e = .boxed b ∧ e.isReal = true := by
  rw [Heap.agrees, equal_of_isPrimitive he]
  constructor
  · intro hf
    split at hf
    · rename_i hcategory
      split at hf
      · rename_i hrefuses
        obtain ⟨hv, hreal⟩ := (Bool.and_eq_true _ _).mp hrefuses
        obtain ⟨d, rfl⟩ := exists_decimal_of_isSignaling hv
        have hobject : h.category e = .object := hcategory.symm
        cases e with
        | boxed b =>
          cases hf
          exact ⟨rfl, hv, b, rfl, hreal⟩
        | str s => cases hobject
        | bool b => cases hobject
        | int n => cases hobject
        | float x => cases hobject
        | _ => exact absurd he Bool.false_ne_true
      · cases hf
    · cases hf
  · rintro ⟨rfl, hv, b, rfl, hreal⟩
    obtain ⟨d, rfl⟩ := exists_decimal_of_isSignaling hv
    have hcategory : h.category (.decimal d) = h.category (.boxed b) := (category_boxed h b).symm
    rw [if_pos hcategory, hv, hreal]
    rfl

theorem renderLiteral_of_integer? {h : Heap} {e : Value} {n : Int} (hn : e.integer? = some n) :
    h.renderLiteral e = integerText n := by
  cases e with
  | int m =>
    cases hn
    rfl
  | boxed b =>
    cases b with
    | int m =>
      cases hn
      rfl
    | _ => cases hn
  | _ => cases hn

theorem exists_renderLiteral {h : Heap} {e : Value} (he : e.isPrimitive = true)
    (hn : e.integer? = none) : ∃ text, h.renderLiteral e = .ok text := by
  cases e with
  | str s => exact ⟨s, rfl⟩
  | bool b => exact ⟨_, rfl⟩
  | float x => exact ⟨_, rfl⟩
  | int n => cases hn
  | boxed b =>
    cases b with
    | int n => cases hn
    | _ => exact ⟨_, rfl⟩
  | _ => exact absurd he Bool.false_ne_true

theorem renderLiteral_error_iff {h : Heap} {e : Value} (he : e.isPrimitive = true) :
    h.renderLiteral e = .error f ↔ f = .digitLimit ∧ ∃ n, e.integer? = some n ∧ IsOversized n := by
  cases hn : e.integer? with
  | some n =>
    rw [renderLiteral_of_integer? hn, integerText_error_iff]
    simp
  | none =>
    obtain ⟨text, htext⟩ := exists_renderLiteral (h := h) he hn
    simp [htext]

theorem leaf_stumbles {p : Pattern} {v : Value} (hleaf : p.isLeaf = true)
    (hp : p.isOrdinary = true) (hf : p.leafFlaw? c.heap v = .error f) : Stumbles c f p v := by
  cases p with
  | literal e =>
    rcases leafFlaw?_literal_error_iff.mp hf with hagrees | ⟨hagrees, hrender⟩
    · obtain ⟨rfl, hv, b, rfl, hreal⟩ := (agrees_error_iff hp).mp hagrees
      exact .comparison hreal hv
    · obtain ⟨rfl, n, hn, hsize⟩ := (renderLiteral_error_iff hp).mp hrender
      exact .wording hn hsize hagrees
  | instanceOf target =>
    cases target with
    | classObject k => cases hf
    | _ => exact absurd hp Bool.false_ne_true
  | typeTag o k =>
    cases o with
    | native => cases hf
    | foreign => exact absurd hp Bool.false_ne_true
  | wrap o w p =>
    cases o with
    | native => exact absurd hleaf Bool.false_ne_true
    | foreign => exact absurd hp Bool.false_ne_true
  | foreign t n => exact absurd hp Bool.false_ne_true
  | arrayOf p => exact absurd hleaf Bool.false_ne_true
  | object u fields => exact absurd hleaf Bool.false_ne_true
  | objectWithValues p => exact absurd hleaf Bool.false_ne_true
  | oneOf choices => exact absurd hleaf Bool.false_ne_true
  | satisfies p => exact absurd hleaf Bool.false_ne_true
  | _ => cases hf

/-! ### Visits -/

theorem visit_run_fault_iff {b : Visit} :
    (b.run c "").result = .error (.fault f) ↔
      (b.demand ≠ .nothing ∧ Path.keyAccessor c.heap b.key = .error f) ∨
        ∃ q accessor, b.demand = .conform q ∧ Path.keyAccessor c.heap b.key = .ok accessor ∧
          (q.matcher c b.part "").result = .error (.fault f) := by
  cases hd : b.demand with
  | nothing => simp [Visit.run, hd]
  | absence =>
    simp only [Visit.run, hd, Path.lift_join_andThen, Run.lift_andThen_result_error_iff]
    simp [eq_comm]
  | conform q =>
    simp only [Visit.run, hd, Path.lift_join_andThen, Run.lift_andThen_result_error_iff,
      Path.concat_empty_left]
    constructor
    · rintro (⟨g, hkey, hg⟩ | ⟨accessor, hkey, hq⟩)
      · cases hg
        exact .inl ⟨by simp, hkey⟩
      · rw [matcher_relocate] at hq
        exact .inr ⟨q, accessor, rfl, hkey, Run.relocate_result_fault_iff.mp hq⟩
    · rintro (⟨-, hkey⟩ | ⟨r, accessor, hr, hkey, hq⟩)
      · exact .inl ⟨f, hkey, rfl⟩
      · cases hr
        refine .inr ⟨accessor, hkey, ?_⟩
        rw [matcher_relocate]
        exact Run.relocate_result_fault_iff.mpr hq

theorem container_fault_iff {p : Pattern} {v : Value} (hp : p.isContainer = true) :
    (p.matcher c v "").result = .error (.fault f) ↔
      ∃ b, p.ComesTo c v b ∧ (b.run c "").result = .error (.fault f) := by
  rw [container_result_error_iff hp]
  constructor
  · rintro (⟨reason, -, he⟩ | ⟨hopening, ⟨before, b, after, hb, hbefore, hrun⟩ |
      ⟨-, reason, -, he⟩⟩)
    · cases he
    · exact ⟨b, ⟨hopening, before, after, hb, hbefore⟩, hrun⟩
    · cases he
  · rintro ⟨b, ⟨hopening, before, after, hb, hbefore⟩, hrun⟩
    exact .inr ⟨hopening, .inl ⟨before, b, after, hb, hbefore, hrun⟩⟩

theorem ComesTo.mem_visits {p : Pattern} {v : Value} {b : Visit} (h : p.ComesTo c v b) :
    b ∈ p.visits c.heap v := by
  obtain ⟨before, after, hb, -⟩ := h.split
  rw [hb]
  exact List.mem_append_cons_self

theorem ComesTo.isContainer {p : Pattern} {v : Value} {b : Visit} (h : p.ComesTo c v b) :
    p.isContainer = true := by
  have hb := h.mem_visits
  cases p with
  | arrayOf p => rfl
  | object u fields => rfl
  | objectWithValues p => rfl
  | _ => exact absurd hb List.not_mem_nil

/-! ### Faults -/

theorem fault_of_stumbles {p : Pattern} {v : Value} (hp : p.Every isOrdinary)
    (h : Stumbles c f p v) : (p.matcher c v "").result = .error (.fault f) := by
  induction h with
  | comparison hb hv =>
    refine (leaf_result_fault_iff rfl).mpr (leafFlaw?_literal_error_iff.mpr (.inl ?_))
    exact (agrees_error_iff rfl).mpr ⟨rfl, hv, _, rfl, hb⟩
  | wording hn hsize hv =>
    refine (leaf_result_fault_iff rfl).mpr (leafFlaw?_literal_error_iff.mpr (.inr ⟨hv, ?_⟩))
    exact (renderLiteral_error_iff hp.root).mpr ⟨rfl, _, hn, hsize⟩
  | key hb hd hkey =>
    refine (container_fault_iff hb.isContainer).mpr ⟨_, hb, visit_run_fault_iff.mpr (.inl ?_)⟩
    exact ⟨hd, hkey⟩
  | part hb hq hkey _ ih =>
    have hpart := hp.part (mem_parts_of_mem_visits hb.mem_visits hq)
    refine (container_fault_iff hb.isContainer).mpr ⟨_, hb, visit_run_fault_iff.mpr (.inr ?_)⟩
    exact ⟨_, _, hq, hkey, ih hpart⟩
  | inner hv _ ih =>
    rw [wrap_matcher, hv]
    exact ih (hp.part (List.mem_singleton_self _))
  | choice hbefore _ ih =>
    have hq := ih (hp.part List.mem_append_cons_self)
    exact oneOf_result_fault_iff.mpr ⟨_, _, _, rfl, hbefore, hq⟩

theorem stumbles_of_fault {p : Pattern} {v : Value} (hp : p.Every isOrdinary)
    (h : (p.matcher c v "").result = .error (.fault f)) : Stumbles c f p v := by
  induction p using formInduction generalizing v with
  | leaf p hleaf => exact leaf_stumbles hleaf hp.root ((leaf_result_fault_iff hleaf).mp h)
  | container p hcontainer ih =>
    obtain ⟨b, hb, hrun⟩ := (container_fault_iff hcontainer).mp h
    -- the key is written before the part is looked at
    rcases visit_run_fault_iff.mp hrun with ⟨hd, hkey⟩ | ⟨q, accessor, hq, hkey, hfault⟩
    · exact .key hb hd hkey
    · have hmem := mem_parts_of_mem_visits hb.mem_visits hq
      exact .part hb hq hkey (ih q hmem (hp.part hmem) hfault)
  | wrap w p ih =>
    rw [wrap_matcher] at h
    cases hv : Matcher.excuses w v with
    | true =>
      rw [hv] at h
      cases h
    | false =>
      rw [hv] at h
      exact .inner hv (ih (hp.part (List.mem_singleton_self p)) h)
  | oneOf choices ih =>
    obtain ⟨before, p, after, rfl, hbefore, hfault⟩ := oneOf_result_fault_iff.mp h
    have hmem : p ∈ before ++ p :: after := List.mem_append_cons_self
    exact .choice hbefore (ih p hmem (hp.part hmem) hfault)
  | satisfies g => exact absurd hp.root Bool.false_ne_true

/-! ### Matches that cannot stumble -/

/-- Is the pattern itself no literal that is boxed or has too many digits? -/
def isWritable : Pattern → Bool
  | literal (.boxed _) => false
  | literal (.int n) => !decide (IsOversized n)
  | _ => true

theorem not_isOversized_of_isWritable {e : Value} {n : Int} (he : (literal e).isWritable = true)
    (hn : e.integer? = some n) : ¬ IsOversized n := by
  cases e with
  | int m =>
    cases hn
    simpa only [isWritable, Bool.not_eq_true', decide_eq_false_iff_not] using he
  | boxed b => exact absurd he Bool.false_ne_true
  | _ => cases hn

/-- If all keys and all literals can be written, and no literal is boxed, every match of an ordinary
pattern has a verdict. -/
theorem verdict_of_isWritable {p : Pattern} (hordinary : p.Every isOrdinary)
    (hwritable : p.Every isWritable)
    (hkeys : ∀ q v, ∀ b ∈ Pattern.visits c.heap q v, ∃ a, Path.keyAccessor c.heap b.key = .ok a)
    (v : Value) : (p.matcher c v "").result ≠ .error (.fault f) := by
  intro hf
  have hstumbles := stumbles_of_fault hordinary hf
  clear hf hordinary
  induction hstumbles with
  | comparison => exact absurd hwritable.root Bool.false_ne_true
  | wording hn hsize _ => exact not_isOversized_of_isWritable hwritable.root hn hsize
  | key hb _ hkey =>
    obtain ⟨a, ha⟩ := hkeys _ _ _ hb.mem_visits
    rw [ha] at hkey
    cases hkey
  | part hb hq _ _ ih => exact ih (hwritable.part (mem_parts_of_mem_visits hb.mem_visits hq))
  | inner _ _ ih => exact ih (hwritable.part (List.mem_singleton_self _))
  | choice _ _ ih => exact ih (hwritable.part List.mem_append_cons_self)

end Pattern

/-- With an ordinary pattern, all three ways to ask for a verdict give one unless the match
stumbles, and the fault that it stumbles over escapes from all three. -/
theorem Context.verdict_unless_stumbles (c : Context) (v raw : Value) (p : Pattern)
    (hp : c.heap.toPattern raw = .ok p) (hordinary : p.Every Pattern.isOrdinary) :
    ((∀ f, ¬ p.Stumbles c f v) →
        ((c.check v raw).result = .ok () ∨ ∃ m, (c.check v raw).result = .error (.mismatch m)) ∧
          (∃ b, (c.accepts v raw).result = .ok b) ∧ ∃ r, (c.explain v raw).result = .ok r) ∧
      (∀ f, p.Stumbles c f v →
        (c.check v raw).result = .error (.fault f) ∧ (c.accepts v raw).result = .error (.fault f) ∧
          (c.explain v raw).result = .error (.fault f)) ∧
      ∀ f, p.Stumbles c f v → f = .incomparable ∨ f = .digitLimit ∨ f = .nestingLimit := by
  rw [check_result hp, accepts_result hp, explain_result hp]
  refine ⟨fun hnot => ?_, fun f hf => ?_, fun f hf => hf.incomparable_or_textual⟩
  · rcases hm : (p.matcher c v "").result with (m | f) | u
    · exact ⟨.inr ⟨m, rfl⟩, ⟨false, rfl⟩, _, rfl⟩
    · exact absurd (Pattern.stumbles_of_fault hordinary hm) (hnot f)
    · exact ⟨.inl rfl, ⟨true, rfl⟩, _, rfl⟩
  · rw [Pattern.fault_of_stumbles hordinary hf]
    exact ⟨rfl, rfl, rfl⟩

/-- A dictionary with an integer for a key, and a pattern that any value under it matches. -/
def integerKey (n : Int) : Heap :=
  ⟨#[.dict .plain [(.int n, .int 1)], .pattern (.objectWithValues .any) []]⟩

/-- The least natural number that cannot be written. -/
def leastOversized : Int := (Nat.pow 10 digitLimit : Nat)

theorem isOversized_leastOversized : IsOversized leastOversized :=
  Nat.le_of_eq (Int.natAbs_natCast _).symm

/-- A key that is never looked at stops the match of the value under it. -/
theorem integerKey_stumbles {n : Int} (hn : IsOversized n) :
    (Pattern.objectWithValues .any).Stumbles ((integerKey n).context false "") .digitLimit
      (.ref 0) := by
  have hvisits : (Pattern.objectWithValues .any).visits (integerKey n) (.ref 0) =
      [⟨.int n, .int 1, .conform .any⟩] := rfl
  have hcomes : (Pattern.objectWithValues .any).ComesTo ((integerKey n).context false "") (.ref 0)
      ⟨.int n, .int 1, .conform .any⟩ :=
    ⟨rfl, [], [], hvisits, List.forall_mem_nil _⟩
  exact .key hcomes (by simp) (Path.keyAccessor_of_isOversized rfl hn)

theorem integerKey_faults :
    (((integerKey leastOversized).context false "").check (.ref 0) (.ref 1)).result =
        .error (.fault .digitLimit) ∧
      (((integerKey leastOversized).context false "").accepts (.ref 0) (.ref 1)).result =
        .error (.fault .digitLimit) ∧
      (((integerKey leastOversized).context false "").explain (.ref 0) (.ref 1)).result =
        .error (.fault .digitLimit) := by
  have hordinary : (Pattern.objectWithValues .any).Every Pattern.isOrdinary := by decide
  have hsize : IsOversized leastOversized := isOversized_leastOversized
  generalize leastOversized = n at hsize ⊢
  exact (Context.verdict_unless_stumbles ((integerKey n).context false "") (.ref 0) (.ref 1)
    (.objectWithValues .any) rfl hordinary).2.1 .digitLimit (integerKey_stumbles hsize)

end Conformance
