import Conformance.Proofs.SpecimenMatch

/-!
# Whole numbers

A double has no fractional part exactly if some integer is equal to it. So the integer pattern
accepts what the literals of all integers accept together, and no more, and the number tag accepts
all of it.
-/

namespace Conformance

/-! ### Doubles and integers -/

namespace Exact

theorem equal_unscaled_iff {s t : Bool} {c d : Nat} {e : Int} (he : e ≤ 0) :
    (finite s c e).equal (finite t d 0) = true ↔
      c = d * Nat.pow 10 (-e).toNat ∧ (d = 0 ∨ s = t) := by
  have hten : 0 < Nat.pow 10 (-e).toNat := Nat.pow_pos (by decide)
  rw [equal]
  by_cases hd : d = 0
  · simp [hd]
  · by_cases hc : c = 0
    · have hscaled : 0 < d * Nat.pow 10 (-e).toNat := Nat.mul_pos (Nat.pos_of_ne_zero hd) hten
      simp only [hc, true_or, if_true, decide_eq_true_eq, Ne.symm hd, false_iff, not_and]
      exact fun heq => absurd heq (Nat.ne_of_lt hscaled)
    · have hup : (e - 0).toNat = 0 := by omega
      have hdown : (0 - e).toNat = (-e).toNat := by omega
      have hone : Nat.pow 10 0 = 1 := rfl
      have hscaled := sameScaled_iff (Nat.pos_of_ne_zero hc) (Nat.pos_of_ne_zero hd) e 0
      rw [hup, hdown, hone, Nat.mul_one] at hscaled
      simp only [hc, hd, or_self, if_false, Bool.and_eq_true, decide_eq_true_eq, hscaled, false_or]
      exact and_comm

/-- A double equals an integer of the same sign whose size its mantissa and scale stand for. -/
theorem equal_ofDouble_ofInt_iff {x : Double} {n : Int} :
    (ofDouble x).equal (ofInt n) = true ↔
      ∃ mantissa scale, x.view = .finite mantissa scale ∧
        mantissa * Nat.pow 2 scale.toNat = n.natAbs * Nat.pow 2 (-scale).toNat ∧
        (n = 0 ∨ x.negative = decide (n < 0)) := by
  rw [ofDouble, ofInt]
  cases x.view with
  | nan => simp [equal]
  | infinite => simp [equal]
  | finite mantissa scale =>
    -- a negative power of two is a power of five over a power of ten
    have hten : Nat.pow 10 (-scale).toNat = Nat.pow 2 (-scale).toNat * Nat.pow 5 (-scale).toNat :=
      Nat.mul_pow 2 5 _
    have hfive : 0 < Nat.pow 5 (-scale).toNat := Nat.pow_pos (by decide)
    have hexponent : (-min scale 0).toNat = (-scale).toNat := by omega
    simp only [Double.View.finite.injEq]
    rw [equal_unscaled_iff (by omega), hexponent, hten, ← Nat.mul_assoc,
      Nat.mul_right_cancel_iff hfive, Int.natAbs_eq_zero]
    constructor
    · intro h
      exact ⟨mantissa, scale, ⟨rfl, rfl⟩, h⟩
    · rintro ⟨_, _, ⟨rfl, rfl⟩, h⟩
      exact h

theorem isWhole_iff_exists_equal {x : Double} :
    x.isWhole = true ↔ ∃ n, (ofDouble x).equal (ofInt n) = true := by
  simp only [equal_ofDouble_ofInt_iff, Double.isWhole]
  cases x.view with
  | nan => simp
  | infinite => simp
  | finite mantissa scale =>
    simp only [decide_eq_true_eq, Double.View.finite.injEq]
    constructor
    · intro hwhole
      -- one of the two powers of two is one, so the mantissa is a multiple of the other
      let size := mantissa / Nat.pow 2 (-scale).toNat * Nat.pow 2 scale.toNat
      have hmantissa := Nat.div_mul_cancel (Nat.dvd_of_mod_eq_zero hwhole)
      have hsize : mantissa * Nat.pow 2 scale.toNat = size * Nat.pow 2 (-scale).toNat := by
        rw [Nat.mul_right_comm, hmantissa]
      refine ⟨if x.negative then -size else size, mantissa, scale, ⟨rfl, rfl⟩, ?_, ?_⟩
      · have habs : (if x.negative then -(size : Int) else size).natAbs = size := by
          split <;> omega
        rw [habs, hsize]
      · cases x.negative with
        | true =>
          by_cases hzero : size = 0
          · exact .inl (by simp [hzero])
          · exact .inr (by simp; omega)
        | false => exact .inr (by simp)
    · rintro ⟨n, _, _, ⟨rfl, rfl⟩, hsize, -⟩
      rcases Int.le_total 0 scale with hscale | hscale
      · have hzero : (-scale).toNat = 0 := by omega
        rw [hzero]
        exact Nat.mod_one _
      · have hzero : scale.toNat = 0 := by omega
        have hone : Nat.pow 2 0 = 1 := rfl
        rw [hzero, hone, Nat.mul_one] at hsize
        rw [hsize]
        exact Nat.mul_mod_left _ _

end Exact

/-! ### Integers and their literals -/

namespace Pattern

variable {c : Context} {v e : Value} {n : Int}

theorem integer_accepts_iff :
    integer.Accepts c v ↔ c.heap.category v = .number ∧ Matcher.isWhole v = true := by
  rw [Accepts, leaf_result_ok_iff rfl, leafFlaw?]
  split <;> simp [*]

theorem category_eq_number_iff {h : Heap} :
    h.category v = .number ↔ (∃ n, v = .int n) ∨ ∃ x, v = .float x := by
  constructor
  · intro hv
    have hatom : v.isAtom = true := (Heap.isAtom_congr (w := .int 0) hv).trans rfl
    cases v with
    | int n => exact .inl ⟨n, rfl⟩
    | float x => exact .inr ⟨x, rfl⟩
    | undefined | null | bool b | str s => cases hv
    | _ => exact absurd hatom Bool.false_ne_true
  · rintro (⟨n, rfl⟩ | ⟨x, rfl⟩)
    · rfl
    · rfl

theorem equalSimple_int_iff {x : Exact} (hv : v.number? = some (.ofReal x)) :
    v.equalSimple (.int n) = true ↔ x.equal (.ofInt n) = true := by
  rw [Value.equalSimple_of_number? hv]
  simp [Value.number?, ComplexValue.equal_ofReal]

theorem integer_accepts_iff_exists_literal :
    integer.Accepts c v ↔ ∃ n, (literal (.int n)).Accepts c v := by
  have hliteral : ∀ n, (literal (.int n)).Accepts c v ↔
      c.heap.category v = .number ∧ v.equalSimple (.int n) = true :=
    fun n => literal_accepts_iff rfl rfl
  simp only [integer_accepts_iff, hliteral, exists_and_left]
  refine and_congr_right fun hnumber => ?_
  rcases category_eq_number_iff.mp hnumber with ⟨m, rfl⟩ | ⟨x, rfl⟩
  · have hself : (Value.int m).equalSimple (.int m) = true :=
      (equalSimple_int_iff rfl).mpr (Exact.equal_self (by simp [Exact.ofInt]))
    exact ⟨fun _ => ⟨m, hself⟩, fun _ => rfl⟩
  · have hequal : ∀ n, (Value.float x).equalSimple (.int n) = true ↔
        (Exact.ofDouble x).equal (.ofInt n) = true := fun n => equalSimple_int_iff rfl
    simp only [Matcher.isWhole, Exact.isWhole_iff_exists_equal, hequal]

theorem category_of_number_literal (he : (∃ n, e = .int n) ∨ ∃ x, e = .float x)
    (hv : (literal e).Accepts c v) : c.heap.category v = .number := by
  have hcategory : c.heap.category e = .number := category_eq_number_iff.mpr he
  rcases he with ⟨n, rfl⟩ | ⟨x, rfl⟩
  · exact ((literal_accepts_iff rfl rfl).mp hv).1
  · exact ((literal_accepts_iff rfl rfl).mp hv).1

end Pattern

/-- The integer pattern accepts a value if and only if some integer does as a raw pattern. What it
accepts, and what any literal of an integer or a double accepts, is accepted by the number tag. -/
theorem Context.integer_is_union_of_literals (c : Context) (v whole number : Value)
    (hwhole : c.heap.toPattern whole = .ok .integer)
    (hnumber : c.heap.toPattern number = .ok (.typeTag .native .number)) :
    ((c.accepts v whole).result = .ok true ↔ ∃ n, (c.accepts v (.int n)).result = .ok true) ∧
      ((c.accepts v whole).result = .ok true → (c.accepts v number).result = .ok true) ∧
      ∀ raw e, c.heap.toPattern raw = .ok (.literal e) →
        ((∃ n, e = .int n) ∨ ∃ x, e = .float x) →
        (c.accepts v raw).result = .ok true → (c.accepts v number).result = .ok true := by
  have htag : (c.accepts v number).result = .ok true ↔ c.heap.category v = .number :=
    (accepts_true_iff hnumber).trans Pattern.typeTag_accepts_iff
  rw [htag, accepts_true_iff hwhole]
  refine ⟨?_, fun hv => (Pattern.integer_accepts_iff.mp hv).1, fun raw e hraw he hv => ?_⟩
  · have hliteral : ∀ n, (c.accepts v (.int n)).result = .ok true ↔
        (Pattern.literal (.int n)).Accepts c v := fun n => accepts_true_iff rfl
    simp only [hliteral]
    exact Pattern.integer_accepts_iff_exists_literal
  · exact Pattern.category_of_number_literal he ((accepts_true_iff hraw).mp hv)

/-- The double `-(2 ^ 70 + 2 ^ 18)`, past the integers that doubles hold without gaps. -/
def distantDouble : Double := ⟨true, 1093, 1⟩

theorem distantDouble_is_integer :
    (∃ n, ((Heap.empty.context false "").accepts (.float distantDouble) (.int n)).result =
        .ok true) ∧
      ((Heap.empty.context false "").accepts (.float distantDouble) (.classObject .float)).result =
        .ok true := by
  have hunion := Context.integer_is_union_of_literals (Heap.empty.context false "")
    (.float distantDouble) (.classObject .int) (.classObject .float) rfl rfl
  have hwhole : ((Heap.empty.context false "").accepts (.float distantDouble)
      (.classObject .int)).result = .ok true := by
    decide +kernel
  exact ⟨hunion.1.mp hwhole, hunion.2.1 hwhole⟩

end Conformance
