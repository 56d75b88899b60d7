import Conformance.Proofs.SimpleEquality
import Conformance.Proofs.Specimen

/-!
# Correspondence

Two values correspond if they have the same shape, and equal atoms of one category at the same
places. The order of entries does not count. The relation is symmetric and transitive, and a
specimen corresponds to itself unless a double in it is not a number.
-/

namespace Conformance

/-! ### Equal atoms -/

namespace Value

variable {v w u : Value}

def IsNaN (v : Value) : Prop := ∃ x, v = float x ∧ x.view = .nan

theorem ofDouble_eq_nan_iff {x : Double} : Exact.ofDouble x = .nan ↔ x.view = .nan := by
  rw [Exact.ofDouble]
  cases x.view <;> simp

theorem equalSimple_self_iff (hv : v.isAtom = true) : v.equalSimple v = true ↔ ¬ v.IsNaN := by
  cases v with
  | float x =>
    rw [equalSimple_of_number? rfl]
    by_cases hnan : x.view = .nan
    · have hvalue := ofDouble_eq_nan_iff.mpr hnan
      simp [IsNaN, hnan, number?, hvalue, ComplexValue.equal_ofReal, Exact.equal]
    · have hself := Exact.equal_self (mt ofDouble_eq_nan_iff.mp hnan)
      simp [IsNaN, hnan, number?, hself, ComplexValue.equal_ofReal]
  | bool b | int n =>
    have hself : ∀ n, (Exact.ofInt n).equal (Exact.ofInt n) = true := by
      intro n
      exact Exact.equal_self (by simp [Exact.ofInt])
    rw [equalSimple_of_number? rfl]
    simp [IsNaN, number?, hself, ComplexValue.equal_ofReal]
  | undefined | null | str s => simp [IsNaN, equalSimple, number?, text?, string?]
  | _ => exact absurd hv Bool.false_ne_true

end Value

/-! ### Corresponding values -/

namespace Heap

variable {h : Heap} {a : Address} {v w u key x : Value} {n m : Nat} {keys : List Value}

/-- The values have the same shape, and equal atoms of one category at the same places. -/
inductive Corresponds (h : Heap) : Value → Value → Prop where
  | atom {v w : Value} (hv : v.isAtom = true) (hcategory : h.category v = h.category w)
    (hequal : v.equalSimple w = true) : Corresponds h v w
  | list {a b : Address} {x y : Value} (ha : h.cell a = .sequence .list [x])
    (hb : h.cell b = .sequence .list [y]) (hparts : Corresponds h x y) :
    Corresponds h (.ref a) (.ref b)
  | dict {a b : Address} {es es' : List (Value × Value)} (ha : h.cell a = .dict .plain es)
    (hb : h.cell b = .dict .plain es') (hkeys : ∀ key, key ∈ es.map (·.1) ↔ key ∈ es'.map (·.1))
    (hparts : ∀ key x y, (key, x) ∈ es → (key, y) ∈ es' → Corresponds h x y) :
    Corresponds h (.ref a) (.ref b)

def HoldsNaN (h : Heap) (v : Value) : Prop := ∃ keys x, h.Reaches v keys x ∧ x.IsNaN

theorem isAtom_congr (hcategory : h.category v = h.category w) : v.isAtom = w.isAtom := by
  rw [Bool.eq_iff_iff, isAtom_iff_category (h := h), isAtom_iff_category (h := h), hcategory]

theorem exists_entry_of_mem_keys {es : List (Value × Value)} (hkey : key ∈ es.map (·.1)) :
    ∃ x, (key, x) ∈ es := by
  obtain ⟨⟨_, x⟩, he, rfl⟩ := List.mem_map.mp hkey
  exact ⟨x, he⟩

theorem mem_keys {es : List (Value × Value)} (hx : (key, x) ∈ es) : key ∈ es.map (·.1) :=
  List.mem_map.mpr ⟨(key, x), hx, rfl⟩

namespace Corresponds

theorem symm (hvw : h.Corresponds v w) : h.Corresponds w v := by
  induction hvw with
  | atom hv hcategory hequal =>
    have hw := (isAtom_congr hcategory).symm.trans hv
    exact .atom hw hcategory.symm (Value.equalSimple_symm hequal)
  | list ha hb _ ih => exact .list hb ha ih
  | dict ha hb hkeys _ ih =>
    exact .dict hb ha (fun key => (hkeys key).symm) fun key y x hy hx => ih key x y hx hy

theorem of_atom (hv : v.isAtom = true) (hvw : h.Corresponds v w) :
    h.category v = h.category w ∧ v.equalSimple w = true := by
  cases hvw with
  | atom _ hcategory hequal => exact ⟨hcategory, hequal⟩
  | list _ _ _ => exact absurd hv Bool.false_ne_true
  | dict _ _ _ _ => exact absurd hv Bool.false_ne_true

theorem of_list (ha : h.cell a = .sequence .list [x]) (hvw : h.Corresponds (.ref a) w) :
    ∃ b y, w = .ref b ∧ h.cell b = .sequence .list [y] ∧ h.Corresponds x y := by
  cases hvw with
  | atom hv _ _ => exact absurd hv Bool.false_ne_true
  | list ha' hb hparts =>
    cases ha.symm.trans ha'
    exact ⟨_, _, rfl, hb, hparts⟩
  | dict ha' _ _ _ => cases ha.symm.trans ha'

theorem of_dict {es : List (Value × Value)} (ha : h.cell a = .dict .plain es)
    (hvw : h.Corresponds (.ref a) w) :
    ∃ b es', w = .ref b ∧ h.cell b = .dict .plain es' ∧
      (∀ key, key ∈ es.map (·.1) ↔ key ∈ es'.map (·.1)) ∧
      ∀ key x y, (key, x) ∈ es → (key, y) ∈ es' → h.Corresponds x y := by
  cases hvw with
  | atom hv _ _ => exact absurd hv Bool.false_ne_true
  | list ha' _ _ => cases ha.symm.trans ha'
  | dict ha' hb hkeys hparts =>
    cases ha.symm.trans ha'
    exact ⟨_, _, rfl, hb, hkeys, hparts⟩

theorem trans (hvw : h.Corresponds v w) (hwu : h.Corresponds w u) : h.Corresponds v u := by
  induction hvw generalizing u with
  | atom hv hcategory hequal =>
    have hw := (isAtom_congr hcategory).symm.trans hv
    obtain ⟨hcategory', hequal'⟩ := hwu.of_atom hw
    exact .atom hv (hcategory.trans hcategory') (Value.equalSimple_trans hequal hequal')
  | list ha hb _ ih =>
    obtain ⟨d, z, rfl, hd, hyz⟩ := hwu.of_list hb
    exact .list ha hd (ih hyz)
  | dict ha hb hkeys _ ih =>
    obtain ⟨d, es, rfl, hd, hkeys', hparts⟩ := hwu.of_dict hb
    refine .dict ha hd (fun key => (hkeys key).trans (hkeys' key)) fun key x z hx hz => ?_
    -- the value under the key in the middle dictionary
    obtain ⟨y, hy⟩ := exists_entry_of_mem_keys ((hkeys key).mp (mem_keys hx))
    exact ih key x y hx hy (hparts key y z hy hz)

theorem category_eq (hvw : h.Corresponds v w) : h.category v = h.category w := by
  cases hvw with
  | atom _ hcategory _ => exact hcategory
  | list ha hb _ => rw [category_of_list ha, category_of_list hb]
  | dict ha hb _ _ =>
    have hv := isPlain_of_plainEntries? (plainEntries?_of_dict ha)
    have hw := isPlain_of_plainEntries? (plainEntries?_of_dict hb)
    rw [Pattern.category_of_isPlain _ hv, Pattern.category_of_isPlain _ hw]

/-- Corresponding specimens are nested equally deeply. -/
theorem isSpecimen (hvw : h.Corresponds v w) (hw : h.IsSpecimen n w) (hv : h.IsSpecimen m v) :
    h.IsSpecimen n v := by
  induction hvw generalizing n m with
  | atom hatom _ _ =>
    obtain ⟨n, rfl⟩ := hw.exists_succ
    exact .atom hatom
  | list ha hb _ ih =>
    obtain ⟨n, rfl⟩ := hw.exists_succ
    obtain ⟨m, rfl⟩ := hv.exists_succ
    have hy := hw.part ((holds_of_list_iff hb).mpr ⟨rfl, rfl⟩)
    have hx := hv.part ((holds_of_list_iff ha).mpr ⟨rfl, rfl⟩)
    exact .list ha (ih hy hx)
  | dict ha hb hkeys _ ih =>
    obtain ⟨n, rfl⟩ := hw.exists_succ
    obtain ⟨m, rfl⟩ := hv.exists_succ
    obtain ⟨htexts, hdistinct⟩ := hv.keys_of_dict ha
    refine .dict ha htexts hdistinct fun e he => ?_
    obtain ⟨y, hy⟩ := exists_entry_of_mem_keys ((hkeys e.1).mp (mem_keys he))
    have hpart := hw.part ((holds_of_dict_iff hb).mpr hy)
    have hpart' := hv.part ((holds_of_dict_iff ha).mpr he)
    exact ih e.1 e.2 y he hy hpart hpart'

theorem part (hvw : h.Corresponds v w) (hx : h.Holds v key x) :
    ∃ y, h.Holds w key y ∧ h.Corresponds x y := by
  cases hvw with
  | atom hatom _ _ => exact absurd hx (not_holds_of_isAtom hatom)
  | list ha hb hparts =>
    obtain ⟨rfl, rfl⟩ := (holds_of_list_iff ha).mp hx
    exact ⟨_, (holds_of_list_iff hb).mpr ⟨rfl, rfl⟩, hparts⟩
  | dict ha hb hkeys hparts =>
    have hmem := (holds_of_dict_iff ha).mp hx
    obtain ⟨y, hy⟩ := exists_entry_of_mem_keys ((hkeys key).mp (mem_keys hmem))
    exact ⟨y, (holds_of_dict_iff hb).mpr hy, hparts key x y hmem hy⟩

/-- A walk through a value can be taken through a corresponding one. -/
theorem reaches (hvw : h.Corresponds v w) (hx : h.Reaches v keys x) :
    ∃ y, h.Reaches w keys y ∧ h.Corresponds x y := by
  induction hx generalizing w with
  | here v => exact ⟨w, .here w, hvw⟩
  | under hstep _ ih =>
    obtain ⟨z, hz, hxz⟩ := hvw.part hstep
    obtain ⟨y, hy, hxy⟩ := ih hxz
    exact ⟨y, .under hz hy, hxy⟩

end Corresponds

theorem corresponds_self_of_isSpecimen (hv : h.IsSpecimen n v) (hnan : ¬ h.HoldsNaN v) :
    h.Corresponds v v := by
  have hpart : ∀ {v key x}, ¬ h.HoldsNaN v → h.Holds v key x → ¬ h.HoldsNaN x := by
    rintro v key x hnan hx ⟨keys, y, hy, hyNaN⟩
    exact hnan ⟨key :: keys, y, .under hx hy, hyNaN⟩
  induction hv with
  | atom hatom =>
    have hself : ¬ Value.IsNaN _ := fun hx => hnan ⟨[], _, .here _, hx⟩
    exact .atom hatom rfl ((Value.equalSimple_self_iff hatom).mpr hself)
  | list ha _ ih =>
    have hx := (holds_of_list_iff ha).mpr ⟨rfl, rfl⟩
    exact .list ha ha (ih (hpart hnan hx))
  | dict ha _ hdistinct _ ih =>
    refine .dict ha ha (fun _ => Iff.rfl) fun key x y hx hy => ?_
    have hfound := (find?_key_of_mem hdistinct hx).symm.trans (find?_key_of_mem hdistinct hy)
    cases hfound
    exact ih (key, x) hx (hpart hnan ((holds_of_dict_iff ha).mpr hx))

theorem IsSpecimen.corresponds_self_iff (hv : h.IsSpecimen n v) :
    h.Corresponds v v ↔ ¬ h.HoldsNaN v := by
  refine ⟨?_, corresponds_self_of_isSpecimen hv⟩
  rintro hvv ⟨keys, x, hx, hnan⟩
  -- the walk leads to one part only, which corresponds to itself
  obtain ⟨y, hy, hxy⟩ := hvv.reaches hx
  cases hv.reaches_unique hx hy
  have hatom : x.isAtom = true := by
    obtain ⟨d, rfl, -⟩ := hnan
    rfl
  cases hxy with
  | atom _ _ hequal => exact (Value.equalSimple_self_iff hatom).mp hequal hnan
  | list _ _ _ => exact absurd hatom Bool.false_ne_true
  | dict _ _ _ _ => exact absurd hatom Bool.false_ne_true

end Heap

end Conformance
