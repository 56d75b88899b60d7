import Conformance.Proofs.Divergence
import Conformance.Proofs.Reordering
import Conformance.Proofs.SoundHeap
import Mathlib.Data.List.Nodup

/-!
# Rearranged patterns

One pattern is another one rearranged if it differs only in the order of the declared fields of
objects and of choices, at any depth. Values conform to both or to none. Together with reordered
values this gives the main statement: verdicts, where there are any, do not depend on orders.
-/

namespace Conformance

open List (Forall₂)

/-! ### Matching reordered values -/

namespace Heap

variable {h : Heap} {v w e : Value}

theorem equal_ne_false (hkeys : h.KeysUnambiguous) (hv : h.Reordered v w)
    (hequal : h.equal v e = .ok true) : h.equal w e ≠ .ok false := by
  rcases h.isReordering_reordered v w hv with rfl | ⟨a, b, rfl, rfl, -⟩
  · simp [hequal]
  · intro hfalse
    have hpart : h.partAt nestingLimit (.ref a) e = .ok true := by
      rw [partAt]
      split
      · rfl
      · exact hequal
    have hne : Value.ref b ≠ e := by
      rintro rfl
      have hself : h.equal (.ref b) (.ref b) = .ok true := by
        rw [equal, nestingLimit, equalAt_ref, if_pos rfl]
      rw [hself] at hfalse
      cases hfalse
    refine partAt_transfers hkeys nestingLimit _ _ _ _ hv (.refl e) hpart ?_
    rw [partAt_of_ne hne]
    exact hfalse

theorem Reordered.isInstanceOf_eq (hv : h.Reordered v w) (target : Value) :
    h.isInstanceOf v target = h.isInstanceOf w target := by
  have hdepth : ∀ depth, h.isInstanceOfAt v depth = h.isInstanceOfAt w depth := by
    intro depth
    induction depth with
    | zero => rfl
    | succ depth ih =>
      funext target
      simp only [isInstanceOfAt, hv.isInstance_eq, ih]
  rw [isInstanceOf, hdepth, isInstanceOf]

end Heap

namespace Pattern

variable {c : Context} {p : Pattern} {v w : Value}

theorem leaf_not_diverges (hkeys : c.heap.KeysUnambiguous) (hleaf : p.isLeaf = true)
    (hv : c.heap.Reordered v w) (hc : p.Conforms c v) (path : String) :
    ¬ (p.matcher c w path).Diverges := by
  rintro ⟨m, hm⟩
  obtain ⟨reason, hflaw, -⟩ := (leaf_result_mismatch_iff hleaf).mp hm
  have hnot : ¬ p.Conforms c w := fun hw =>
    absurd ((conforms_leaf_iff hleaf hflaw).mpr hw) (Option.some_ne_none reason)
  cases p with
  | literal e =>
    -- conformance may be lost here, but only to a fault
    rw [Conforms] at hc
    rcases leafFlaw?_literal_ok_iff.mp hflaw with ⟨-, hnone⟩ | ⟨wanted, hagrees, -, -⟩
    · cases hnone
    · rw [Heap.agrees, if_pos (hv.category_eq ▸ hc.1)] at hagrees
      exact Heap.equal_ne_false hkeys hv hc.2 hagrees
  | typeTag o k =>
    cases o with
    | native =>
      simp only [Conforms, ← hv.category_eq] at hnot hc
      exact hnot hc
    | foreign => cases hflaw
  | wrap o w p =>
    cases o with
    | native => exact absurd hleaf Bool.false_ne_true
    | foreign => cases hflaw
  | any | integer | objectTag | arrayTag | functionTag | dateTag | regexTag | instanceOf _ =>
    simp only [Conforms, ← hv.category_eq, ← hv.isArrayLike_eq, ← hv.isInstance_eq,
      ← hv.isInstanceOf_eq, ← hv.hasNoFraction_iff] at hnot hc
    exact hnot hc
  | foreign t n => cases hflaw
  | _ => exact absurd hleaf Bool.false_ne_true

/-- The parts of the reordered value are parts of the value reordered, and the same is asked of
them. -/
theorem exists_visit_of_reordered (hp : p.isContainer = true)
    (hopening : p.openingFlaw? c.heap v = none) (hv : c.heap.Reordered v w) {b : Visit}
    (hb : b ∈ p.visits c.heap w) :
    ∃ b₀ ∈ p.visits c.heap v, b₀.demand = b.demand ∧ c.heap.Reordered b₀.part b.part := by
  have hentry : ∀ e ∈ c.heap.plainEntries w, c.heap.plainEntries? v = some (c.heap.plainEntries v) →
      ∃ e₀ ∈ c.heap.plainEntries v, EntryRelated c.heap.Reordered e₀ e := by
    intro e he hentries
    obtain ⟨es', hes', hreordered⟩ := hv.plainEntries hentries
    rw [Heap.plainEntries, hes'] at he
    exact hreordered.exists_of_mem_right he
  cases p with
  | arrayOf q =>
    obtain ⟨item, hitem, rfl⟩ := List.mem_map.mp hb
    have hmem : item.1 ∈ (c.heap.elements w).toList := by
      rw [← List.zipIdx_map_fst 0 (c.heap.elements w).toList]
      exact List.mem_map_of_mem hitem
    obtain ⟨x, hx, hr⟩ := exists_of_mem_right hv.elements hmem
    obtain ⟨i, hi⟩ := List.mem_iff_getElem?.mp hx
    have hindexed : (x, i) ∈ (c.heap.elements v).toList.zipIdx := List.mem_zipIdx_iff_getElem?.mpr hi
    exact ⟨_, List.mem_map_of_mem hindexed, rfl, hr⟩
  | objectWithValues q =>
    obtain ⟨e, he, rfl⟩ := List.mem_map.mp hb
    obtain ⟨e₀, he₀, hr⟩ := hentry e he ((openingFlaw?_eq_none_iff (by simp)).mp hopening)
    exact ⟨_, List.mem_map_of_mem he₀, rfl, hr.2⟩
  | object u fields =>
    obtain ⟨e, he, rfl⟩ := List.mem_map.mp hb
    obtain ⟨e₀, he₀, hr⟩ := hentry e he ((openingFlaw?_eq_none_iff (by simp)).mp hopening)
    refine ⟨_, List.mem_map_of_mem he₀, ?_, hr.2⟩
    simp only [hr.1]
  | _ => exact absurd hp Bool.false_ne_true

theorem openingFlaw?_of_reordered (hopening : p.openingFlaw? c.heap v = none)
    (hv : c.heap.Reordered v w) : p.openingFlaw? c.heap w = none := by
  cases p with
  | arrayOf q =>
    rw [openingFlaw?_arrayOf_eq_none_iff] at hopening ⊢
    rw [← hv.isArrayLike_eq, hopening]
  | _ =>
    rw [openingFlaw?_eq_none_iff (by simp)] at hopening ⊢
    obtain ⟨es', hes', -⟩ := hv.plainEntries hopening
    rw [Heap.plainEntries, hes', Option.getD_some]

theorem closingFlaw?_of_reordered (hopening : p.openingFlaw? c.heap v = none)
    (hclosing : p.closingFlaw? c.heap v = none) (hv : c.heap.Reordered v w) :
    p.closingFlaw? c.heap w = none := by
  cases p with
  | object u fields =>
    rw [openingFlaw?_eq_none_iff (by simp)] at hopening
    obtain ⟨es', hes', hreordered⟩ := hv.plainEntries hopening
    rw [closingFlaw?, Option.map_eq_none_iff, absent?_eq_none_iff] at hclosing ⊢
    rw [Heap.plainEntries, hes', Option.getD_some]
    intro f hf hwrapped
    obtain ⟨e, he, hname⟩ := hclosing f hf hwrapped
    obtain ⟨e', he', hr⟩ := hreordered.exists_of_mem_left he
    exact ⟨e', he', hr.1 ▸ hname⟩
  | _ => rfl

theorem visit_not_diverges {b : Visit} {x : Value} (hmet : demandMet c x b.demand)
    (ih : ∀ q, b.demand = .conform q → q.Conforms c x → ∀ path, ¬ (q.matcher c b.part path).Diverges)
    (path : String) : ¬ (b.run c path).Diverges := by
  rintro ⟨m, hm⟩
  cases hd : b.demand with
  | conform q =>
    rw [hd] at hmet
    simp only [Visit.run, hd] at hm
    rcases Run.lift_andThen_result_error_iff.mp hm with ⟨f, -, hf⟩ | ⟨t, -, ht⟩
    · cases hf
    · exact ih q hd hmet t ⟨m, ht⟩
  | nothing =>
    simp only [Visit.run, hd] at hm
    cases hm
  | absence =>
    rw [hd] at hmet
    exact hmet

theorem container_not_diverges (hp : p.isContainer = true) (hv : c.heap.Reordered v w)
    (hc : p.Conforms c v) (path : String)
    (ih : ∀ q ∈ p.parts, ∀ x y, c.heap.Reordered x y → q.Conforms c x →
      ∀ path, ¬ (q.matcher c y path).Diverges) :
    ¬ (p.matcher c w path).Diverges := by
  obtain ⟨hopening, hvisits, hclosing⟩ := (conforms_container_iff hp).mp hc
  rintro ⟨m, hm⟩
  rcases (container_result_error_iff hp).mp hm with
    ⟨reason, hr, -⟩ | ⟨-, ⟨before, b, after, heq, -, hb⟩ | ⟨-, reason, hr, -⟩⟩
  · rw [openingFlaw?_of_reordered hopening hv] at hr
    cases hr
  · have hmem : b ∈ p.visits c.heap w := heq ▸ List.mem_append_cons_self
    obtain ⟨b₀, hb₀, hdemand, hpart⟩ := exists_visit_of_reordered hp hopening hv hmem
    have hmet : demandMet c b₀.part b.demand := hdemand ▸ hvisits b₀ hb₀
    refine visit_not_diverges hmet (fun q hq hconforms path => ?_) path ⟨m, hb⟩
    exact ih q (mem_parts_of_mem_visits hmem hq) b₀.part b.part hpart hconforms path
  · rw [closingFlaw?_of_reordered hopening hclosing hv] at hr
    cases hr

theorem not_diverges_of_reordered (hkeys : c.heap.KeysUnambiguous) (hfree : p.Every isPredicateFree)
    (hv : c.heap.Reordered v w) (hc : p.Conforms c v) (path : String) :
    ¬ (p.matcher c w path).Diverges := by
  -- on the pattern, for the reordered parts of all values and the paths to them at once
  induction p using formInduction generalizing v w path with
  | leaf p hleaf => exact leaf_not_diverges hkeys hleaf hv hc path
  | container p hcontainer ih =>
    exact container_not_diverges hcontainer hv hc path fun q hq x y hxy hx =>
      ih q hq (hfree.part hq) hxy hx
  | wrap wrapper p ih =>
    rw [conforms_wrap_iff, hv.excuses_eq] at hc
    rw [wrap_matcher]
    cases hexcused : Matcher.excuses wrapper w with
    | true =>
      rintro ⟨m, hm⟩
      cases hm
    | false =>
      rw [hexcused] at hc
      exact ih (hfree.part (List.mem_singleton_self p)) hv (hc.resolve_left Bool.false_ne_true) path
  | oneOf choices ih =>
    obtain ⟨p, hmem, hp⟩ := conforms_oneOf.mp hc
    rintro ⟨m, hm⟩
    exact ih p hmem (hfree.part hmem) hv hp path ((oneOf_result_mismatch_iff.mp hm).1 p hmem)
  | satisfies f => exact absurd hfree.root Bool.false_ne_true

/-! ### Rearranged patterns -/

/-- The second pattern is the first with declared fields and choices, at any depth, in any order.
The names of an object whose fields are moved are distinct. -/
inductive Rearranged : Pattern → Pattern → Prop where
  | refl (p : Pattern) : Rearranged p p
  | trans {p q r : Pattern} (hpq : Rearranged p q) (hqr : Rearranged q r) : Rearranged p r
  | fields {u : UnknownKeys} {fs gs : List (String × Pattern)} (hnames : (fs.map (·.1)).Nodup)
    (h : fs.Perm gs) : Rearranged (object u fs) (object u gs)
  | choices {ps qs : List Pattern} (h : ps.Perm qs) : Rearranged (oneOf ps) (oneOf qs)
  | arrayOf {p q : Pattern} (h : Rearranged p q) : Rearranged (arrayOf p) (arrayOf q)
  | objectWithValues {p q : Pattern} (h : Rearranged p q) :
    Rearranged (objectWithValues p) (objectWithValues q)
  | wrap {o : Origin} {w : Wrapper} {p q : Pattern} (h : Rearranged p q) :
    Rearranged (wrap o w p) (wrap o w q)
  | field {u : UnknownKeys} {before after : List (String × Pattern)} {name : String}
    {p q : Pattern} (h : Rearranged p q) :
    Rearranged (object u (before ++ (name, p) :: after)) (object u (before ++ (name, q) :: after))
  | choice {before after : List Pattern} {p q : Pattern} (h : Rearranged p q) :
    Rearranged (oneOf (before ++ p :: after)) (oneOf (before ++ q :: after))

/-- The same values conform to both patterns, as they are and as fields. -/
structure Interchangeable (c : Context) (p q : Pattern) : Prop where
  isWrapped_eq : p.isWrapped = q.isWrapped
  conforms_iff : ∀ v, p.Conforms c v ↔ q.Conforms c v
  unwrapped_iff : ∀ v, p.unwrapped.Conforms c v ↔ q.unwrapped.Conforms c v

namespace Interchangeable

theorem refl (p : Pattern) : p.Interchangeable c p := ⟨rfl, fun _ => .rfl, fun _ => .rfl⟩

theorem symm {p q : Pattern} (h : p.Interchangeable c q) : q.Interchangeable c p where
  isWrapped_eq := h.isWrapped_eq.symm
  conforms_iff v := (h.conforms_iff v).symm
  unwrapped_iff v := (h.unwrapped_iff v).symm

theorem trans {p q r : Pattern} (hpq : p.Interchangeable c q) (hqr : q.Interchangeable c r) :
    p.Interchangeable c r where
  isWrapped_eq := hpq.isWrapped_eq.trans hqr.isWrapped_eq
  conforms_iff v := (hpq.conforms_iff v).trans (hqr.conforms_iff v)
  unwrapped_iff v := (hpq.unwrapped_iff v).trans (hqr.unwrapped_iff v)

theorem of_not_wrapped {p q : Pattern} (hp : p.isWrapped = false) (hq : q.isWrapped = false)
    (h : ∀ v, p.Conforms c v ↔ q.Conforms c v) : p.Interchangeable c q where
  isWrapped_eq := hp.trans hq.symm
  conforms_iff := h
  unwrapped_iff := by
    rw [unwrapped_of_isWrapped_eq_false hp, unwrapped_of_isWrapped_eq_false hq]
    exact h

end Interchangeable

/-- Where names are distinct, the order of fields does not matter for what is declared. -/
theorem declared?_perm {fs gs : List (String × Pattern)} (hnames : (fs.map (·.1)).Nodup)
    (h : fs.Perm gs) (key : Value) : declared? fs key = declared? gs key := by
  have hfind : ∀ name : String, fs.find? (·.1 = name) = gs.find? (·.1 = name) := by
    intro name
    cases hg : gs.find? (·.1 = name) with
    | none =>
      rw [List.find?_eq_none] at hg ⊢
      exact fun f hf => hg f (h.mem_iff.mp hf)
    | some g =>
      have hname : g.1 = name := by simpa using List.find?_some hg
      have hmem : (name, g.2) ∈ fs := by
        rw [← hname]
        exact h.mem_iff.mpr (List.mem_of_find?_eq_some hg)
      rw [Heap.find?_key_of_mem hnames hmem, ← hname]
  rw [declared?, declared?]
  exact congrArg key.text?.bind (funext fun name => congrArg (Option.map (·.2)) (hfind name))

theorem object_perm {u : UnknownKeys} {fs gs : List (String × Pattern)}
    (hnames : (fs.map (·.1)).Nodup) (h : fs.Perm gs) (v : Value) :
    (object u fs).Conforms c v ↔ (object u gs).Conforms c v := by
  simp only [Conforms, declared?_perm hnames h, h.mem_iff]

theorem declared?_congr {r : Pattern → Pattern → Prop} {fs gs : List (String × Pattern)}
    (h : Forall₂ (fun f g => f.1 = g.1 ∧ r f.2 g.2) fs gs) (key : Value) :
    (declared? fs key = none ∧ declared? gs key = none) ∨
      ∃ p q, declared? fs key = some p ∧ declared? gs key = some q ∧ r p q := by
  rw [declared?, declared?]
  cases key.text? with
  | none => exact .inl ⟨rfl, rfl⟩
  | some name =>
    simp only [Option.bind_some]
    induction h with
    | nil => exact .inl ⟨rfl, rfl⟩
    | @cons f g fs gs hfg _ ih =>
      obtain ⟨hname, hr⟩ := hfg
      by_cases hf : f.1 = name
      · have hg : g.1 = name := hname ▸ hf
        rw [List.find?_cons_of_pos (by simpa using hf), List.find?_cons_of_pos (by simpa using hg)]
        exact .inr ⟨f.2, g.2, rfl, rfl, hr⟩
      · have hg : ¬ g.1 = name := hname ▸ hf
        rw [List.find?_cons_of_neg (by simpa using hf), List.find?_cons_of_neg (by simpa using hg)]
        exact ih

theorem object_mono {u : UnknownKeys} {fs gs : List (String × Pattern)} {v : Value}
    (h : Forall₂ (fun f g => f.1 = g.1 ∧ f.2.Interchangeable c g.2) fs gs)
    (hv : (object u fs).Conforms c v) : (object u gs).Conforms c v := by
  rw [Conforms] at hv ⊢
  obtain ⟨entries, hentries, hdeclared, hpresent, hknown⟩ := hv
  refine ⟨entries, hentries, fun e he q hq => ?_, fun g hg hwrapped => ?_, fun hu e he hnone => ?_⟩
  · rcases declared?_congr h e.1 with ⟨-, hnone⟩ | ⟨p, q', hp, hq', hpq⟩
    · rw [hnone] at hq
      cases hq
    · rw [hq'] at hq
      cases hq
      exact (hpq.unwrapped_iff e.2).mp (hdeclared e he p hp)
  · obtain ⟨f, hf, hname, hfg⟩ := exists_of_mem_right h hg
    rw [← hname]
    exact hpresent f hf (hfg.isWrapped_eq.trans hwrapped)
  · rcases declared?_congr h e.1 with ⟨hnone', -⟩ | ⟨p, q, -, hq, -⟩
    · exact hknown hu e he hnone'
    · rw [hnone] at hq
      cases hq

theorem object_congr {u : UnknownKeys} {fs gs : List (String × Pattern)}
    (h : Forall₂ (fun f g => f.1 = g.1 ∧ f.2.Interchangeable c g.2) fs gs) (v : Value) :
    (object u fs).Conforms c v ↔ (object u gs).Conforms c v := by
  have hback : Forall₂ (fun g f => g.1 = f.1 ∧ g.2.Interchangeable c f.2) gs fs := by
    refine List.Forall₂.flip (h.imp fun f g hfg => ?_)
    exact ⟨hfg.1.symm, hfg.2.symm⟩
  exact ⟨object_mono h, object_mono hback⟩

theorem Rearranged.interchangeable {p q : Pattern} (h : p.Rearranged q) :
    p.Interchangeable c q := by
  induction h with
  | refl p => exact .refl p
  | trans _ _ ih ih' => exact ih.trans ih'
  | fields hnames h => exact .of_not_wrapped rfl rfl (object_perm hnames h)
  | choices h =>
    refine .of_not_wrapped rfl rfl fun v => ?_
    simp only [conforms_oneOf, h.mem_iff]
  | arrayOf _ ih | objectWithValues _ ih =>
    refine .of_not_wrapped rfl rfl fun v => ?_
    simp only [Conforms, ih.conforms_iff]
  | @wrap o w p q _ ih =>
    refine ⟨rfl, fun v => ?_, ih.conforms_iff⟩
    cases o with
    | native => simp only [Conforms, ih.conforms_iff]
    | foreign => simp only [Conforms]
  | field _ ih =>
    refine .of_not_wrapped rfl rfl (object_congr (List.rel_append ?_ ?_))
    · exact List.forall₂_same.mpr fun f _ => ⟨rfl, .refl f.2⟩
    · exact .cons ⟨rfl, ih⟩ (List.forall₂_same.mpr fun f _ => ⟨rfl, .refl f.2⟩)
  | choice _ ih =>
    refine .of_not_wrapped rfl rfl fun v => ?_
    simp only [conforms_oneOf, List.mem_append, List.mem_cons, or_and_right, exists_or,
      exists_eq_left, ih.conforms_iff]

theorem Rearranged.every {p q : Pattern} (h : p.Rearranged q) (hp : p.Every isPredicateFree) :
    q.Every isPredicateFree := by
  induction h with
  | refl p => exact hp
  | trans _ _ ih ih' => exact ih' (ih hp)
  | fields _ h =>
    refine every_iff.mpr ⟨rfl, fun r hr => (every_iff.mp hp).2 r ?_⟩
    exact (h.map _).mem_iff.mpr hr
  | choices h =>
    exact every_iff.mpr ⟨rfl, fun r hr => (every_iff.mp hp).2 r (h.mem_iff.mpr hr)⟩
  | arrayOf _ ih | objectWithValues _ ih | wrap _ ih =>
    refine every_iff.mpr ⟨rfl, List.forall_mem_singleton.mpr ?_⟩
    exact ih ((every_iff.mp hp).2 _ (List.mem_singleton_self _))
  | field _ ih =>
    have hchildren := (every_iff.mp hp).2
    simp only [children, List.map_append, List.map_cons, List.forall_mem_append,
      List.forall_mem_cons] at hchildren
    obtain ⟨hbefore, hchild, hafter⟩ := hchildren
    refine every_iff.mpr ⟨rfl, ?_⟩
    simp only [children, List.map_append, List.map_cons, List.forall_mem_append,
      List.forall_mem_cons]
    exact ⟨hbefore, ih hchild, hafter⟩
  | choice _ ih =>
    obtain ⟨hbefore, hrest⟩ := List.forall_mem_append.mp (every_iff.mp hp).2
    obtain ⟨hchild, hafter⟩ := List.forall_mem_cons.mp hrest
    refine every_iff.mpr ⟨rfl, List.forall_mem_append.mpr ⟨hbefore, ?_⟩⟩
    exact List.forall_mem_cons.mpr ⟨ih hchild, hafter⟩

/-! ### Fields in another order -/

/-- The run fails for a name that is missing from the value that it began with. -/
def MissesKeyAt (path : String) (r : Run Unit) : Prop :=
  ∃ name, r.result = .error (.mismatch ⟨.missingKey name, path⟩)

theorem absent?_perm {fs gs : List (String × Pattern)} (h : fs.Perm gs)
    (entries : List (Value × Value)) : absent? fs entries = none ↔ absent? gs entries = none := by
  simp only [absent?_eq_none_iff, h.mem_iff]

/-- The order of the fields of an object shows in nothing but which one of several missing keys is
reported. -/
theorem object_matcher_perm {u : UnknownKeys} {fs gs : List (String × Pattern)}
    (hnames : (fs.map (·.1)).Nodup) (h : fs.Perm gs) (v : Value) (path : String) :
    (object u fs).matcher c v path = (object u gs).matcher c v path ∨
      (MissesKeyAt path ((object u fs).matcher c v path) ∧
        MissesKeyAt path ((object u gs).matcher c v path)) := by
  have hvisits : (object u fs).visits c.heap v = (object u gs).visits c.heap v := by
    simp only [visits, Demand.ofKey, declared?_perm hnames h]
  have hopening : (object u fs).openingFlaw? c.heap v = (object u gs).openingFlaw? c.heap v := rfl
  rw [container_matcher c v path (p := object u fs) rfl,
    container_matcher c v path (p := object u gs) rfl, hvisits, hopening, ← Run.andThen_assoc,
    ← Run.andThen_assoc]
  generalize hwalk : (Run.flaw ((object u gs).openingFlaw? c.heap v) path).andThen _ = walk
  have habsent := absent?_perm h (c.heap.plainEntries v)
  rw [closingFlaw?, closingFlaw?]
  cases hf : absent? fs (c.heap.plainEntries v) with
  | none =>
    rw [habsent.mp hf]
    exact .inl rfl
  | some name =>
    cases hg : absent? gs (c.heap.plainEntries v) with
    | none =>
      rw [habsent.mpr hg] at hf
      cases hf
    | some name' =>
      cases hresult : walk.result with
      | error e => exact .inl (by simp only [Run.andThen, hresult])
      | ok a =>
        exact .inr ⟨⟨name, by simp [Run.andThen, hresult]⟩, name', by simp [Run.andThen, hresult]⟩

end Pattern

/-! ### Verdicts -/

/-- Neither the order of entries in the value nor that of fields and choices in the pattern matters
for the verdict. The order of the fields of one object does not even matter for the outcome, unless
it is a key that this object misses. -/
theorem Context.verdict_ignores_order (c : Context) :
    (∀ v w raw raw' p q b b', c.heap.KeysUnambiguous → c.heap.Reordered v w → p.Rearranged q →
      p.Every Pattern.isPredicateFree → c.heap.toPattern raw = .ok p →
        c.heap.toPattern raw' = .ok q → (c.accepts v raw).result = .ok b →
          (c.accepts w raw').result = .ok b' → b = b') ∧
    ∀ u (fs gs : List (String × Pattern)) v path, (fs.map (·.1)).Nodup → fs.Perm gs →
      (Pattern.object u fs).matcher c v path = (Pattern.object u gs).matcher c v path ∨
        (Pattern.MissesKeyAt path ((Pattern.object u fs).matcher c v path) ∧
          Pattern.MissesKeyAt path ((Pattern.object u gs).matcher c v path)) := by
  refine ⟨?_, fun u fs gs v path hnames h => Pattern.object_matcher_perm hnames h v path⟩
  intro v w raw raw' p q b b' hkeys hv hpq hfree hp hq hb hb'
  have hconforms := (hpq.interchangeable (c := c)).conforms_iff
  -- where verdicts differ, a value conforms to a pattern that it diverges from once reordered
  cases b with
  | true =>
    cases b' with
    | true => rfl
    | false =>
      have hpv := (p.matcher_decides c v "").1 ((accepts_true_iff hp).mp hb)
      have hdiverges := (accepts_false_iff hq).mp hb'
      have hqv : q.Conforms c v := (hconforms v).mp hpv
      exact absurd hdiverges (Pattern.not_diverges_of_reordered hkeys (hpq.every hfree) hv hqv "")
  | false =>
    cases b' with
    | true =>
      have hqw := (q.matcher_decides c w "").1 ((accepts_true_iff hq).mp hb')
      have hdiverges := (accepts_false_iff hp).mp hb
      have hpw : p.Conforms c w := (hconforms w).mpr hqw
      exact absurd hdiverges (Pattern.not_diverges_of_reordered hkeys hfree hv.symm hpw "")
    | false => rfl

/-- Declares `a`, a dictionary that equals the first one of the heap, and `b`. -/
def orderedFields : Pattern :=
  .object .reject
    [("a", .literal (.ref 0)), ("b", .oneOf [.typeTag .native .number, .typeTag .native .string])]

/-- The same, the other way round. -/
def swappedFields : Pattern :=
  .object .reject
    [("b", .oneOf [.typeTag .native .string, .typeTag .native .number]), ("a", .literal (.ref 0))]

/-- Two dictionaries and the same the other way round, one inside the other. -/
def swappedEntries : Heap :=
  ⟨#[.dict .plain [(.str "x", .int 1), (.str "y", .null)],
    .dict .plain [(.str "y", .null), (.str "x", .int 1)],
    .dict .plain [(.str "a", .ref 0), (.str "b", .str "t")],
    .dict .plain [(.str "b", .str "t"), (.str "a", .ref 1)],
    .pattern orderedFields [], .pattern swappedFields []]⟩

theorem swappedEntries_filled : swappedEntries.Filled := by
  have h₁ := Heap.Filled.empty.dict .plain [(.str "x", .int 1), (.str "y", .null)] (by decide) rfl
  have h₂ := h₁.dict .plain [(.str "y", .null), (.str "x", .int 1)] (by decide) rfl
  have h₃ := h₂.dict .plain [(.str "a", .ref 0), (.str "b", .str "t")] (by decide) rfl
  have h₄ := h₃.dict .plain [(.str "b", .str "t"), (.str "a", .ref 1)] (by decide) rfl
  exact (h₄.pattern orderedFields [] (by decide)).pattern swappedFields [] (by decide)

theorem swappedEntries_reordered : swappedEntries.Reordered (.ref 2) (.ref 3) := by
  refine ⟨fun v w => v = w ∨ (v = .ref 0 ∧ w = .ref 1) ∨ (v = .ref 2 ∧ w = .ref 3), ?_,
    .inr (.inr ⟨rfl, rfl⟩)⟩
  rintro v w (rfl | ⟨rfl, rfl⟩ | ⟨rfl, rfl⟩)
  · exact .inl rfl
  · refine .inr ⟨0, 1, rfl, rfl, .dict (List.Perm.swap _ _ _) (.inl rfl) ?_⟩
    exact List.forall₂_same.mpr fun e _ => ⟨rfl, .inl rfl⟩
  · refine .inr ⟨2, 3, rfl, rfl, .dict (List.Perm.swap _ _ _) (.inl rfl) ?_⟩
    exact .cons ⟨rfl, .inl rfl⟩ (.cons ⟨rfl, .inr (.inl ⟨rfl, rfl⟩)⟩ .nil)

theorem orderedFields_rearranged : orderedFields.Rearranged swappedFields := by
  refine .trans (.fields (by decide) (List.Perm.swap _ _ _)) ?_
  exact @Pattern.Rearranged.field .reject [] _ _ _ _ (.choices (List.Perm.swap _ _ _))

theorem swappedEntries_same_verdict :
    ((swappedEntries.context false "").accepts (.ref 2) (.ref 4)).result = .ok true ∧
      ((swappedEntries.context false "").accepts (.ref 3) (.ref 5)).result = .ok true := by
  have hb : ((swappedEntries.context false "").accepts (.ref 2) (.ref 4)).result = .ok true := by
    decide +kernel
  have hfree : orderedFields.Every Pattern.isPredicateFree := by decide
  obtain ⟨b', hb'⟩ : ∃ b',
      ((swappedEntries.context false "").accepts (.ref 3) (.ref 5)).result = .ok b' :=
    ⟨true, by decide +kernel⟩
  have hsame : true = b' := (Context.verdict_ignores_order (swappedEntries.context false "")).1 _ _
    _ _ _ _ _ _ swappedEntries_filled.isSound.keysUnambiguous swappedEntries_reordered
    orderedFields_rearranged hfree rfl rfl hb hb'
  exact ⟨hb, hsame ▸ hb'⟩

end Conformance
