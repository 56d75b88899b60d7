import Conformance.Proofs.Agreement
import Conformance.Proofs.Correspondence
import Conformance.Proofs.PathReader
import Conformance.Proofs.Stumble

/-!
# Matching specimens with each other

A specimen matches the pattern that another one stands for exactly if the two correspond. So among
specimens matching is symmetric and transitive, and a specimen matches itself unless a double in it
is not a number or it is nested too deeply to stand for a pattern.
-/

namespace Conformance

namespace Pattern

variable {c : Context} {p q : Pattern} {v e x : Value} {a : Address} {n m k : Nat}
  {fields : List (String × Pattern)}

theorem typeTag_accepts_iff {kind : TypeKind} :
    (typeTag .native kind).Accepts c v ↔ c.heap.category v = kind.category := by
  rw [Accepts, leaf_result_ok_iff rfl, leafFlaw?]
  split <;> simp [*]

theorem literal_accepts_iff (he : e.isPrimitive = true) (hatom : e.isAtom = true) :
    (literal e).Accepts c v ↔ c.heap.category v = c.heap.category e ∧ v.equalSimple e = true := by
  have hagrees : (literal e).Accepts c v ↔ c.heap.agrees v e = .ok true := by
    rw [Accepts, leaf_result_ok_iff rfl, leafFlaw?_literal_ok_iff]
    simp
  rw [hagrees, agrees_true_iff, equal_of_isPrimitive he]
  refine and_congr_right fun hcategory => ?_
  -- a value of the category of an atom is no decimal number
  have hsignaling : v.isSignaling = false := by
    have hv : v.isAtom = true := (Heap.isAtom_congr hcategory).trans hatom
    cases v with
    | decimal d => exact absurd hv Bool.false_ne_true
    | _ => rfl
  rw [hsignaling, Bool.false_and, if_neg Bool.false_ne_true]
  simp

theorem eq_of_bare_category (he : e = .undefined ∨ e = .null)
    (hcategory : c.heap.category v = c.heap.category e) : v = e := by
  have hatom : e.isAtom = true := by rcases he with rfl | rfl <;> rfl
  have hv : v.isAtom = true := (Heap.isAtom_congr hcategory).trans hatom
  rcases he with rfl | rfl
  · cases v with
    | undefined => rfl
    | null | bool b | int n | float x | str s => cases hcategory
    | _ => exact absurd hv Bool.false_ne_true
  · cases v with
    | null => rfl
    | undefined | bool b | int n | float x | str s => cases hcategory
    | _ => exact absurd hv Bool.false_ne_true

theorem bare_accepts_iff {kind : TypeKind} (he : e = .undefined ∨ e = .null)
    (hkind : c.heap.category e = kind.category) :
    (typeTag .native kind).Accepts c v ↔ c.heap.Corresponds v e := by
  rw [typeTag_accepts_iff, ← hkind]
  constructor
  · intro hcategory
    have hv := eq_of_bare_category he hcategory
    rw [hv]
    rcases he with rfl | rfl
    · exact .atom rfl rfl rfl
    · exact .atom rfl rfl rfl
  · exact fun hve => hve.category_eq

theorem atom_accepts_iff (he : e.isAtom = true) (hp : c.heap.toPatternAt (n + 1) e = .ok p) :
    p.Accepts c v ↔ c.heap.Corresponds v e := by
  have hliteral : ∀ e : Value, e.isPrimitive = true → e.isAtom = true →
      ((literal e).Accepts c v ↔ c.heap.Corresponds v e) := by
    intro e hprimitive hatom
    rw [literal_accepts_iff hprimitive hatom]
    constructor
    · rintro ⟨hcategory, hequal⟩
      exact .atom ((Heap.isAtom_congr hcategory).trans hatom) hcategory hequal
    · intro hve
      have hv : v.isAtom = true := (Heap.isAtom_congr hve.category_eq).trans hatom
      exact hve.of_atom hv
  cases e with
  | undefined =>
    cases hp
    exact bare_accepts_iff (.inl rfl) rfl
  | null =>
    cases hp
    exact bare_accepts_iff (.inr rfl) rfl
  | bool b | int n | float x | str s =>
    cases hp
    exact hliteral _ rfl rfl
  | _ => exact absurd he Bool.false_ne_true

theorem arrayOf_accepts_iff (hv : c.heap.IsSpecimen m v) :
    (arrayOf q).Accepts c v ↔
      ∃ a x, v = .ref a ∧ c.heap.cell a = .sequence .list [x] ∧ q.Accepts c x := by
  rw [Accepts, container_result_ok_iff rfl, openingFlaw?_arrayOf_eq_none_iff]
  cases hv with
  | atom hatom =>
    rw [Heap.isArrayLike_of_isAtom hatom]
    constructor
    · rintro ⟨hfalse, -⟩
      exact absurd hfalse Bool.false_ne_true
    · rintro ⟨a, x, rfl, -⟩
      exact absurd hatom Bool.false_ne_true
  | @list m a x ha _ =>
    have hvisits : (arrayOf q).visits c.heap (.ref a) = [⟨.int 0, x, .conform q⟩] := by
      rw [visits, Heap.elements_of_list ha]
      rfl
    rw [hvisits, Heap.isArrayLike_of_list ha, List.forall_mem_singleton, visit_run_ok_iff rfl]
    constructor
    · rintro ⟨-, ⟨-, hx⟩, -⟩
      exact ⟨a, x, rfl, ha, hx⟩
    · rintro ⟨b, y, hb, hcell, hy⟩
      cases hb
      cases ha.symm.trans hcell
      have hpos : ∀ k, 0 < Nat.pow 10 k := fun k => Nat.pow_pos (by decide)
      have hsize : ¬ IsOversized 0 := Nat.not_le_of_gt (hpos digitLimit)
      exact ⟨rfl, ⟨⟨_, Path.keyAccessor_of_integer? c.heap rfl hsize⟩, hy⟩, rfl⟩
  | @dict m a entries ha _ _ _ =>
    rw [Heap.isArrayLike_of_dict ha]
    constructor
    · rintro ⟨hfalse, -⟩
      exact absurd hfalse Bool.false_ne_true
    · rintro ⟨b, y, hb, hcell, -⟩
      cases hb
      cases ha.symm.trans hcell

theorem visit_run_ok_iff_admits {u : UnknownKeys} {entry : Value × Value}
    (hkey : ∃ accessor, Path.keyAccessor c.heap entry.1 = .ok accessor) :
    (Visit.run c "" ⟨entry.1, entry.2, .ofKey u fields entry.1⟩).result = .ok () ↔
      Admits c u fields entry := by
  refine ⟨admits_of_visit, fun hadmits => ?_⟩
  cases hd : declared? fields entry.1 with
  | some q =>
    simp only [Admits, hd] at hadmits
    have hdemand : Demand.ofKey u fields entry.1 = .conform q.unwrapped := by
      simp only [Demand.ofKey, hd]
    exact (visit_run_ok_iff hdemand).mpr ⟨hkey, hadmits⟩
  | none =>
    simp only [Admits, hd] at hadmits
    subst hadmits
    simp only [Visit.run, Demand.ofKey, hd]
    rfl

theorem object_accepts_iff (hv : c.heap.IsSpecimen m v) :
    (object .reject fields).Accepts c v ↔
      ∃ a entries, v = .ref a ∧ c.heap.cell a = .dict .plain entries ∧
        (∀ e ∈ entries, Admits c .reject fields e) ∧
        ∀ f ∈ fields, f.2.isWrapped = false → ∃ e ∈ entries, e.1.text? = some f.1 := by
  rw [Accepts, container_result_ok_iff rfl, openingFlaw?_eq_none_iff (by simp)]
  cases hv with
  | atom hatom =>
    rw [Heap.plainEntries?_of_isAtom hatom]
    constructor
    · rintro ⟨hnone, -⟩
      cases hnone
    · rintro ⟨a, entries, rfl, -⟩
      exact absurd hatom Bool.false_ne_true
  | @list m a x ha _ =>
    rw [Heap.plainEntries?_of_list ha]
    constructor
    · rintro ⟨hnone, -⟩
      cases hnone
    · rintro ⟨b, entries, hb, hcell, -⟩
      cases hb
      cases ha.symm.trans hcell
  | @dict m a entries ha hkeys _ _ =>
    have hentries := Heap.plainEntries?_of_dict ha
    have hall : c.heap.plainEntries (.ref a) = entries := by rw [Heap.plainEntries, hentries]; rfl
    rw [visits, closingFlaw?, hall, Option.map_eq_none_iff, absent?_eq_none_iff,
      List.forall_mem_map]
    have hvisit : ∀ e ∈ entries,
        ((Visit.run c "" ⟨e.1, e.2, .ofKey .reject fields e.1⟩).result = .ok () ↔
          Admits c .reject fields e) := by
      intro e he
      obtain ⟨s, hs⟩ := hkeys e he
      refine visit_run_ok_iff_admits ⟨Path.accessor s, ?_⟩
      rw [hs, Path.keyAccessor_str]
    constructor
    · rintro ⟨-, hruns, hpresent⟩
      exact ⟨a, entries, rfl, ha, fun e he => (hvisit e he).mp (hruns e he), hpresent⟩
    · rintro ⟨b, entries', hb, hcell, hadmits, hpresent⟩
      cases hb
      cases ha.symm.trans hcell
      exact ⟨hentries, fun e he => (hvisit e he).mpr (hadmits e he), hpresent⟩

theorem list_accepts_iff {b : Address} {y : Value} (hv : c.heap.IsSpecimen k v)
    (hb : c.heap.cell b = .sequence .list [y])
    (hy : ∀ {k x}, c.heap.IsSpecimen k x → (q.Accepts c x ↔ c.heap.Corresponds x y)) :
    (arrayOf q).Accepts c v ↔ c.heap.Corresponds v (.ref b) := by
  obtain ⟨k, rfl⟩ := hv.exists_succ
  rw [arrayOf_accepts_iff hv]
  constructor
  · rintro ⟨a, x, rfl, ha, hx⟩
    have hpart := hv.part ((Heap.holds_of_list_iff ha).mpr ⟨rfl, rfl⟩)
    exact .list ha hb ((hy hpart).mp hx)
  · intro hcorresponds
    obtain ⟨a, x, rfl, ha, hyx⟩ := hcorresponds.symm.of_list hb
    have hpart := hv.part ((Heap.holds_of_list_iff ha).mpr ⟨rfl, rfl⟩)
    exact ⟨a, x, rfl, ha, (hy hpart).mpr hyx.symm⟩

section Dictionaries

variable {b : Address} {entries entries' : List (Value × Value)} {s : String}

/-- The fields of a specimen admit an entry if the value matches what the specimen holds under the
key. -/
theorem admits_iff (he : c.heap.IsSpecimen (m + 1) (.ref b))
    (hb : c.heap.cell b = .dict .plain entries')
    (hfields : c.heap.declareFields (c.heap.toPatternAt n) entries' = .ok fields) :
    Admits c .reject fields (.str s, x) ↔
      ∃ y q, (.str s, y) ∈ entries' ∧ c.heap.toPatternAt n y = .ok q ∧ q.Accepts c x := by
  obtain ⟨hkeys, hdistinct⟩ := he.keys_of_dict hb
  have hunwrapped : ∀ {y q}, (.str s, y) ∈ entries' → c.heap.toPatternAt n y = .ok q →
      q.unwrapped = q := by
    intro y q hy hq
    have hpart := he.part ((Heap.holds_of_dict_iff hb).mpr hy)
    exact unwrapped_of_isWrapped_eq_false (hpart.isWrapped_eq_false hq)
  constructor
  · intro hadmits
    cases hd : declared? fields (.str s) with
    | none =>
      simp only [Admits, hd] at hadmits
      cases hadmits
    | some q =>
      obtain ⟨y, hy, hq⟩ := (Heap.declared?_str_iff hkeys hdistinct hfields).mp hd
      simp only [Admits, hd, hunwrapped hy hq] at hadmits
      exact ⟨y, q, hy, hq, hadmits⟩
  · rintro ⟨y, q, hy, hq, hx⟩
    have hd := (Heap.declared?_str_iff hkeys hdistinct hfields).mpr ⟨y, hy, hq⟩
    simp only [Admits, hd, hunwrapped hy hq]
    exact hx

theorem present_iff (he : c.heap.IsSpecimen (m + 1) (.ref b))
    (hb : c.heap.cell b = .dict .plain entries')
    (hfields : c.heap.declareFields (c.heap.toPatternAt n) entries' = .ok fields)
    (hkeys : ∀ e ∈ entries, ∃ s, e.1 = .str s) :
    (∀ f ∈ fields, f.2.isWrapped = false → ∃ e ∈ entries, e.1.text? = some f.1) ↔
      ∀ key ∈ entries'.map (·.1), key ∈ entries.map (·.1) := by
  obtain ⟨hkeys', -⟩ := he.keys_of_dict hb
  have hrelated := Heap.declareFields_eq_ok_iff.mp hfields
  constructor
  · intro hpresent key hkey
    obtain ⟨y, hy⟩ := Heap.exists_entry_of_mem_keys hkey
    obtain ⟨f, hf, hname, hq⟩ := exists_of_mem_left hrelated hy
    have hpart := he.part ((Heap.holds_of_dict_iff hb).mpr hy)
    obtain ⟨⟨key', x⟩, hx, htext⟩ := hpresent f hf (hpart.isWrapped_eq_false hq)
    obtain ⟨s, rfl⟩ := hkeys' _ hy
    obtain ⟨t, rfl⟩ := hkeys _ hx
    cases htext.trans hname.symm
    exact Heap.mem_keys hx
  · intro hwithin f hf _
    obtain ⟨⟨key, y⟩, hy, hname, -⟩ := exists_of_mem_right hrelated hf
    obtain ⟨s, rfl⟩ := hkeys' _ hy
    obtain ⟨x, hx⟩ := Heap.exists_entry_of_mem_keys (hwithin _ (Heap.mem_keys hy))
    exact ⟨_, hx, hname⟩

theorem dict_accepts_iff (hv : c.heap.IsSpecimen k v) (he : c.heap.IsSpecimen (m + 1) (.ref b))
    (hb : c.heap.cell b = .dict .plain entries')
    (hfields : c.heap.declareFields (c.heap.toPatternAt n) entries' = .ok fields)
    (hparts : ∀ e ∈ entries', ∀ {k x q}, c.heap.IsSpecimen k x →
      c.heap.toPatternAt n e.2 = .ok q → (q.Accepts c x ↔ c.heap.Corresponds x e.2)) :
    (object .reject fields).Accepts c v ↔ c.heap.Corresponds v (.ref b) := by
  obtain ⟨k, rfl⟩ := hv.exists_succ
  rw [object_accepts_iff hv]
  constructor
  · rintro ⟨a, entries, rfl, ha, hadmits, hpresent⟩
    obtain ⟨hkeys, -⟩ := hv.keys_of_dict ha
    rw [present_iff he hb hfields hkeys] at hpresent
    have hmatch : ∀ {key x}, (key, x) ∈ entries →
        ∃ y, (key, y) ∈ entries' ∧ c.heap.Corresponds x y := by
      intro key x hx
      obtain ⟨s, rfl⟩ := hkeys _ hx
      obtain ⟨y, q, hy, hq, haccepts⟩ := (admits_iff he hb hfields).mp (hadmits _ hx)
      have hpart := hv.part ((Heap.holds_of_dict_iff ha).mpr hx)
      exact ⟨y, hy, (hparts _ hy hpart hq).mp haccepts⟩
    refine .dict ha hb (fun key => ⟨fun hkey => ?_, hpresent key⟩) fun key x y hx hy => ?_
    · obtain ⟨x, hx⟩ := Heap.exists_entry_of_mem_keys hkey
      obtain ⟨y, hy, -⟩ := hmatch hx
      exact Heap.mem_keys hy
    · obtain ⟨z, hz, hxz⟩ := hmatch hx
      have hyz := he.holds_unique ((Heap.holds_of_dict_iff hb).mpr hy)
        ((Heap.holds_of_dict_iff hb).mpr hz)
      rw [hyz]
      exact hxz
  · intro hcorresponds
    obtain ⟨a, entries, rfl, ha, hsame, hboth⟩ := hcorresponds.symm.of_dict hb
    obtain ⟨hkeys, -⟩ := hv.keys_of_dict ha
    refine ⟨a, entries, rfl, ha, ?_, ?_⟩
    · rintro ⟨key, x⟩ hx
      obtain ⟨s, rfl⟩ := hkeys _ hx
      obtain ⟨y, hy⟩ := Heap.exists_entry_of_mem_keys ((hsame _).mpr (Heap.mem_keys hx))
      obtain ⟨q, hq⟩ := Heap.exists_build_of_declareFields hfields hy
      have hpart := hv.part ((Heap.holds_of_dict_iff ha).mpr hx)
      have hyx := hboth _ y x hy hx
      exact (admits_iff he hb hfields).mpr ⟨y, q, hy, hq, (hparts _ hy hpart hq).mpr hyx.symm⟩
    · exact (present_iff he hb hfields hkeys).mpr fun key hkey => (hsame key).mp hkey

end Dictionaries

/-- A specimen matches the pattern that another one stands for if the two correspond. -/
theorem specimen_accepts_iff (he : c.heap.IsSpecimen m e) (hv : c.heap.IsSpecimen k v)
    (hp : c.heap.toPatternAt n e = .ok p) : p.Accepts c v ↔ c.heap.Corresponds v e := by
  obtain ⟨n, rfl⟩ := Heap.exists_succ_of_toPatternAt hp
  induction he generalizing k v n p with
  | atom hatom => exact atom_accepts_iff hatom hp
  | list hb _ ih =>
    obtain ⟨-, q, hq, rfl⟩ := (Heap.toPatternAt_element_eq_ok_iff hb).mp hp
    obtain ⟨n, rfl⟩ := Heap.exists_succ_of_toPatternAt hq
    exact list_accepts_iff hv hb fun hx => ih hx n hq
  | dict hb hkeys hdistinct hparts ih =>
    obtain ⟨-, fields, hfields, rfl⟩ := (Heap.toPatternAt_dict_eq_ok_iff hb).mp hp
    have he := Heap.IsSpecimen.dict hb hkeys hdistinct hparts
    refine dict_accepts_iff hv he hb hfields fun e he _ _ _ hx hq => ?_
    obtain ⟨n, rfl⟩ := Heap.exists_succ_of_toPatternAt hq
    exact ih e he hx n hq

end Pattern

namespace Context

variable {c : Context} {d e f : Value} {k m n : Nat}

theorem accepts_specimen_iff (hd : c.heap.IsSpecimen k d) (he : c.heap.IsSpecimen m e) :
    (c.accepts d e).result = .ok true ↔
      c.heap.IsSpecimen nestingLimit e ∧ c.heap.Corresponds d e := by
  constructor
  · intro htrue
    cases hp : c.heap.toPattern e with
    | error g =>
      rw [accepts_of_error hp] at htrue
      cases htrue
    | ok p =>
      have haccepts : p.Accepts c d := (accepts_true_iff hp).mp htrue
      exact ⟨he.of_toPatternAt hp, (Pattern.specimen_accepts_iff he hd hp).mp haccepts⟩
  · rintro ⟨hlimit, hcorresponds⟩
    obtain ⟨p, hp⟩ := hlimit.exists_toPatternAt
    exact (accepts_true_iff hp).mpr ((Pattern.specimen_accepts_iff he hd hp).mpr hcorresponds)

/-- Among specimens, matching is symmetric and transitive. A specimen that stands for a pattern
matches itself unless a double in it is not a number; one that stands for none is nested too deeply,
and to match it fails for that cause. Where one matches another, both have the same places, with
values of the same category. -/
theorem specimens_partially_equivalent (c : Context) {k m n : Nat} {d e f : Value}
    (hd : c.heap.IsSpecimen k d) (he : c.heap.IsSpecimen m e) (hf : c.heap.IsSpecimen n f) :
    ((c.accepts d e).result = .ok true → (c.accepts e d).result = .ok true) ∧
      ((c.accepts d e).result = .ok true → (c.accepts e f).result = .ok true →
        (c.accepts d f).result = .ok true) ∧
      (∀ p, c.heap.toPattern d = .ok p →
        ((c.accepts d d).result = .ok true ↔ ¬ c.heap.HoldsNaN d)) ∧
      (∀ g, c.heap.toPattern d = .error g →
        g = .nestingLimit ∧ (c.accepts d d).result = .error (.fault .nestingLimit)) ∧
      ((c.accepts d e).result = .ok true →
        ∀ keys, ((∃ x, c.heap.Reaches d keys x) ↔ ∃ y, c.heap.Reaches e keys y) ∧
          ∀ x y, c.heap.Reaches d keys x → c.heap.Reaches e keys y →
            c.heap.category x = c.heap.category y) := by
  rw [accepts_specimen_iff hd he, accepts_specimen_iff he hd, accepts_specimen_iff he hf,
    accepts_specimen_iff hd hf, accepts_specimen_iff hd hd]
  refine ⟨?symmetric, ?transitive, ?reflexive, ?deep, ?places⟩
  case symmetric =>
    rintro ⟨hlimit, hde⟩
    exact ⟨hde.isSpecimen hlimit hd, hde.symm⟩
  case transitive =>
    rintro ⟨-, hde⟩ ⟨hlimit, hef⟩
    exact ⟨hlimit, hde.trans hef⟩
  case reflexive =>
    intro p hp
    rw [hd.corresponds_self_iff]
    exact and_iff_right (hd.of_toPatternAt hp)
  case deep =>
    intro g hg
    have hlimit : g = .nestingLimit := hd.toPatternAt_faultsOnly nestingLimit g hg
    refine ⟨hlimit, ?_⟩
    rw [accepts_of_error hg, hlimit]
    rfl
  case places =>
    rintro ⟨-, hde⟩ keys
    refine ⟨⟨fun ⟨x, hx⟩ => ?_, fun ⟨y, hy⟩ => ?_⟩, fun x y hx hy => ?_⟩
    · obtain ⟨y, hy, -⟩ := hde.reaches hx
      exact ⟨y, hy⟩
    · obtain ⟨x, hx, -⟩ := hde.symm.reaches hy
      exact ⟨x, hx⟩
    · obtain ⟨z, hz, hxz⟩ := hde.reaches hx
      rw [he.reaches_unique hy hz]
      exact hxz.category_eq

end Context

/-- Two dictionaries that differ in the order of their entries and in the type of a number. -/
def swappedSpecimens : Heap :=
  ⟨#[.sequence .list [.int 1],
    .dict .plain [(.str "a", .ref 0), (.str "b", .null)],
    .sequence .list [.float ⟨false, 1023, 0⟩],
    .dict .plain [(.str "b", .null), (.str "a", .ref 2)]]⟩

theorem swappedSpecimens_isSpecimen :
    swappedSpecimens.IsSpecimen 3 (.ref 1) ∧ swappedSpecimens.IsSpecimen 3 (.ref 3) := by
  have hnull : swappedSpecimens.IsSpecimen 2 .null := .atom rfl
  have hint : swappedSpecimens.IsSpecimen 2 (.ref 0) := .list rfl (.atom rfl)
  have hfloat : swappedSpecimens.IsSpecimen 2 (.ref 2) := .list rfl (.atom rfl)
  have hfirst : swappedSpecimens.cell 1 = .dict .plain [(.str "a", .ref 0), (.str "b", .null)] :=
    rfl
  have hsecond : swappedSpecimens.cell 3 = .dict .plain [(.str "b", .null), (.str "a", .ref 2)] :=
    rfl
  constructor
  · exact .dict hfirst (by simp) (by simp) (by simp [hint, hnull])
  · exact .dict hsecond (by simp) (by simp) (by simp [hfloat, hnull])

theorem swappedSpecimens_match :
    ((swappedSpecimens.context false "").accepts (.ref 1) (.ref 3)).result = .ok true ∧
      ((swappedSpecimens.context false "").accepts (.ref 3) (.ref 1)).result = .ok true := by
  obtain ⟨hd, he⟩ := swappedSpecimens_isSpecimen
  have htrue : ((swappedSpecimens.context false "").accepts (.ref 1) (.ref 3)).result =
      .ok true := by
    decide +kernel
  have hequivalent := Context.specimens_partially_equivalent (swappedSpecimens.context false "")
    hd he hd
  exact ⟨htrue, hequivalent.1 htrue⟩

/-! ### Specimens that are nested too deeply -/

/-- Lists that lie in each other, the null value in the innermost. -/
def tower (n : Nat) : Heap :=
  ⟨(Array.range n).map fun i => .sequence .list [if i = 0 then .null else .ref (i - 1)]⟩

section Tower

variable {n m i : Nat}

theorem tower_cell (hi : i < n) :
    (tower n).cell i = .sequence .list [if i = 0 then .null else .ref (i - 1)] := by
  simp [tower, Heap.cell, hi]

theorem tower_isSpecimen (hi : i < n) : (tower n).IsSpecimen (i + 2) (.ref i) := by
  induction i with
  | zero => exact .list (tower_cell hi) (.atom rfl)
  | succ i ih => exact .list (tower_cell hi) (ih (by omega))

theorem tower_corresponds_self (hi : i < n) : (tower n).Corresponds (.ref i) (.ref i) := by
  induction i with
  | zero => exact .list (tower_cell hi) (tower_cell hi) (.atom rfl rfl rfl)
  | succ i ih => exact .list (tower_cell hi) (tower_cell hi) (ih (by omega))

theorem le_of_tower_isSpecimen (hi : i < n) (h : (tower n).IsSpecimen m (.ref i)) : i + 2 ≤ m := by
  induction i generalizing m with
  | zero =>
    obtain ⟨m, rfl⟩ := h.exists_succ
    have hpart := h.part ((Heap.holds_of_list_iff (tower_cell hi)).mpr ⟨rfl, rfl⟩)
    obtain ⟨m, rfl⟩ := hpart.exists_succ
    omega
  | succ i ih =>
    obtain ⟨m, rfl⟩ := h.exists_succ
    have hpart := h.part ((Heap.holds_of_list_iff (tower_cell hi)).mpr ⟨rfl, rfl⟩)
    have hle := ih (by omega) hpart
    omega

end Tower

theorem tower_matches_not_itself :
    ¬ ∀ (c : Context) (n : Nat) (d : Value), c.heap.IsSpecimen n d →
      ((c.accepts d d).result = .ok true ↔ ¬ c.heap.HoldsNaN d) := by
  intro hclaim
  have hlt : nestingLimit - 1 < nestingLimit := by decide
  have hspecimen := tower_isSpecimen hlt
  have hself := hclaim ((tower nestingLimit).context false "") _ _ hspecimen
  rw [Context.accepts_specimen_iff hspecimen hspecimen] at hself
  have hnan := hspecimen.corresponds_self_iff.mp (tower_corresponds_self hlt)
  have hle := le_of_tower_isSpecimen hlt (hself.mpr hnan).1
  omega

end Conformance
