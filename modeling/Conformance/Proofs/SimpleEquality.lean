import Conformance.Heap.Equality

/-!
# Equality without parts

Values that are complete in themselves are equal if they are the same number, the same text, the
same range or the same union, or else one and the same value. So equality of such values is
symmetric and transitive. It is not reflexive: what is not a number equals nothing.
-/

namespace Conformance
namespace Value

variable {v w u : Value}

theorem number?_of_text? {s : String} (hs : v.text? = some s) : v.number? = none := by
  cases v with
  | str t => rfl
  | userStr t => rfl
  | boxed b =>
    cases b with
    | str t => rfl
    | _ => cases hs
  | _ => cases hs

theorem equalSimple_of_number? {x : ComplexValue} (hx : v.number? = some x) :
    v.equalSimple w = true ↔ ∃ y, w.number? = some y ∧ x.equal y = true := by
  simp only [equalSimple, hx]
  cases w.number? <;> simp

theorem equalSimple_of_text? {s : String} (hs : v.text? = some s) :
    v.equalSimple w = true ↔ w.text? = some s := by
  simp only [equalSimple, number?_of_text? hs, hs]
  cases ht : w.text? with
  | some t =>
    rw [number?_of_text? ht]
    simp [eq_comm]
  | none => cases w.number? <;> simp

/-! ### Values that are no numbers and no texts -/

/-- Ranges with the same integers, unions of the same classes, or one and the same value. -/
inductive SameOther : Value → Value → Prop where
  | refl (v : Value) : SameOther v v
  | range {a b c d e f : Int} (h : equalRange a b c d e f = true) :
    SameOther (range a b c) (range d e f)
  | union (c d : Class) : SameOther (union c d) (union d c)

theorem equalRange_iff {a b c d e f : Int} : equalRange a b c d e f = true ↔
    rangeLength a b c = rangeLength d e f ∧
      (rangeLength a b c = 0 ∨ a = d ∧ (rangeLength a b c = 1 ∨ c = f)) := by
  simp [equalRange]

theorem SameOther.symm (h : SameOther v w) : SameOther w v := by
  cases h with
  | refl => exact .refl v
  | range h =>
    obtain ⟨hlength, hrest⟩ := equalRange_iff.mp h
    refine .range (equalRange_iff.mpr ⟨hlength.symm, ?_⟩)
    rw [← hlength]
    rcases hrest with hempty | ⟨rfl, hone | rfl⟩
    · exact .inl hempty
    · exact .inr ⟨rfl, .inl hone⟩
    · exact .inr ⟨rfl, .inr rfl⟩
  | union c d => exact .union d c

theorem SameOther.trans (hvw : SameOther v w) (hwu : SameOther w u) : SameOther v u := by
  cases hvw with
  | refl => exact hwu
  | range h =>
    cases hwu with
    | refl => exact .range h
    | range h' =>
      obtain ⟨hlength, hrest⟩ := equalRange_iff.mp h
      obtain ⟨hlength', hrest'⟩ := equalRange_iff.mp h'
      refine .range (equalRange_iff.mpr ⟨hlength.trans hlength', ?_⟩)
      rw [← hlength] at hrest'
      omega
  | union c d =>
    cases hwu with
    | refl => exact .union c d
    | union => exact .refl _

theorem equalSimple_of_none (hnumber : v.number? = none) (htext : v.text? = none) :
    v.equalSimple w = true ↔ SameOther v w := by
  constructor
  · intro h
    cases hw : w.number? with
    | some y => simp [equalSimple, hnumber, hw] at h
    | none =>
      cases hw' : w.text? with
      | some t => simp [equalSimple, hnumber, htext, hw, hw'] at h
      | none =>
        simp only [equalSimple, hnumber, htext, hw, hw'] at h
        split at h
        · exact .range h
        · rename_i a b c d
          rcases (by simpa using h : (a = c ∧ b = d) ∨ a = d ∧ b = c) with ⟨rfl, rfl⟩ | ⟨rfl, rfl⟩
          · exact .refl _
          · exact .union _ _
        · rw [of_decide_eq_true h]
          exact .refl _
  · intro h
    cases h with
    | refl =>
      simp only [equalSimple, hnumber, htext]
      split
      · simp [equalRange]
      · simp
      · exact decide_eq_true rfl
    | range h => exact h
    | union c d => simp [equalSimple, number?, text?, string?]

/-! ### All values without parts -/

theorem SameOther.none (h : SameOther v w) (hnumber : v.number? = none) (htext : v.text? = none) :
    w.number? = none ∧ w.text? = none := by
  cases h with
  | refl => exact ⟨hnumber, htext⟩
  | range => exact ⟨rfl, rfl⟩
  | union => exact ⟨rfl, rfl⟩

theorem equalSimple_symm (h : v.equalSimple w = true) : w.equalSimple v = true := by
  cases hv : v.number? with
  | some x =>
    obtain ⟨y, hy, hxy⟩ := (equalSimple_of_number? hv).mp h
    rw [ComplexValue.equal_comm] at hxy
    exact (equalSimple_of_number? hy).mpr ⟨x, hv, hxy⟩
  | none =>
    cases ht : v.text? with
    | some s => exact (equalSimple_of_text? ((equalSimple_of_text? ht).mp h)).mpr ht
    | none =>
      have hother := (equalSimple_of_none hv ht).mp h
      obtain ⟨hw, hw'⟩ := hother.none hv ht
      exact (equalSimple_of_none hw hw').mpr hother.symm

theorem equalSimple_trans (hvw : v.equalSimple w = true) (hwu : w.equalSimple u = true) :
    v.equalSimple u = true := by
  cases hv : v.number? with
  | some x =>
    obtain ⟨y, hy, hxy⟩ := (equalSimple_of_number? hv).mp hvw
    obtain ⟨z, hz, hyz⟩ := (equalSimple_of_number? hy).mp hwu
    exact (equalSimple_of_number? hv).mpr ⟨z, hz, ComplexValue.equal_trans hxy hyz⟩
  | none =>
    cases ht : v.text? with
    | some s =>
      have hw := (equalSimple_of_text? ht).mp hvw
      exact (equalSimple_of_text? ht).mpr ((equalSimple_of_text? hw).mp hwu)
    | none =>
      have hother := (equalSimple_of_none hv ht).mp hvw
      obtain ⟨hw, hw'⟩ := hother.none hv ht
      exact (equalSimple_of_none hv ht).mpr (hother.trans ((equalSimple_of_none hw hw').mp hwu))

end Value
end Conformance
