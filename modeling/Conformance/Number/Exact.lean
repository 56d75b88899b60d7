import Conformance.Number.Decimal
import Conformance.Number.Double

/-!
# Exact values of numbers

Numbers of different types compare by the exact value they stand for. `Exact` is that value: a
coefficient times a power of ten, an infinity, or none. Integers, doubles and decimal numbers all
have such a value. No power of ten is taken for numbers whose exponents are far apart, so a
comparison takes no longer than writing the coefficients. Values with an imaginary part are pairs.
-/

namespace Conformance

/-! ### Scaled coefficients -/

/-- Is `c * 10 ^ e` the same number as `d * 10 ^ f`? -/
def sameScaled (c : Nat) (e : Int) (d : Nat) (f : Int) : Bool :=
  let up := (e - f).toNat
  let down := (f - e).toNat
  up ≤ d.log2 && down ≤ c.log2 && c * Nat.pow 10 up = d * Nat.pow 10 down

theorem le_log2_of_pow_le {k n : Nat} (h : Nat.pow 10 k ≤ n) : k ≤ n.log2 := by
  have hpos : 0 < Nat.pow 10 k := Nat.pow_pos (by decide)
  have h2 : 2 ^ k ≤ Nat.pow 10 k := Nat.pow_le_pow_left (by decide) k
  exact (Nat.le_log2 (by omega)).2 (Nat.le_trans h2 h)

/-- The guards on the exponents do not change what the comparison says. -/
theorem sameScaled_iff {c d : Nat} (hc : 0 < c) (hd : 0 < d) (e f : Int) :
    sameScaled c e d f = true ↔
      c * Nat.pow 10 (e - f).toNat = d * Nat.pow 10 (f - e).toNat := by
  have hone : Nat.pow 10 0 = 1 := rfl
  simp only [sameScaled, Bool.and_eq_true, decide_eq_true_eq]
  refine ⟨fun h => h.2, fun h => ⟨⟨?_, ?_⟩, h⟩⟩
  · by_cases hle : e ≤ f
    · have hzero : (e - f).toNat = 0 := by omega
      omega
    · have hzero : (f - e).toNat = 0 := by omega
      rw [hzero, hone, Nat.mul_one] at h
      exact le_log2_of_pow_le (h ▸ Nat.le_mul_of_pos_left _ hc)
  · by_cases hle : f ≤ e
    · have hzero : (f - e).toNat = 0 := by omega
      omega
    · have hzero : (e - f).toNat = 0 := by omega
      rw [hzero, hone, Nat.mul_one] at h
      exact le_log2_of_pow_le (h ▸ Nat.le_mul_of_pos_left _ hd)

theorem sameScaled_self (c : Nat) (e : Int) : sameScaled c e c e = true := by
  simp [sameScaled]

theorem sameScaled_comm (c : Nat) (e : Int) (d : Nat) (f : Int) :
    sameScaled c e d f = sameScaled d f c e := by
  simp only [sameScaled, eq_comm (a := c * _), Bool.and_comm (decide ((e - f).toNat ≤ d.log2))]

theorem sameScaled_iff_at {c d : Nat} (hc : 0 < c) (hd : 0 < d) {e f k : Int} (he : k ≤ e)
    (hf : k ≤ f) :
    sameScaled c e d f = true ↔
      c * Nat.pow 10 (e - k).toNat = d * Nat.pow 10 (f - k).toNat := by
  have hadd : ∀ m n, Nat.pow 10 (m + n) = Nat.pow 10 m * Nat.pow 10 n := fun m n => Nat.pow_add ..
  have hleft : (e - k).toNat = (e - f).toNat + (min e f - k).toNat := by omega
  have hright : (f - k).toNat = (f - e).toNat + (min e f - k).toNat := by omega
  have hpos : 0 < Nat.pow 10 (min e f - k).toNat := Nat.pow_pos (by decide)
  rw [sameScaled_iff hc hd, hleft, hright, hadd, hadd, ← Nat.mul_assoc, ← Nat.mul_assoc]
  exact (Nat.mul_right_cancel_iff hpos).symm

theorem sameScaled_trans {b c d : Nat} (hb : 0 < b) (hc : 0 < c) (hd : 0 < d) {e f g : Int}
    (hbc : sameScaled b e c f = true) (hcd : sameScaled c f d g = true) :
    sameScaled b e d g = true := by
  -- at the least of the three exponents, the coefficients of all are scaled up
  let k := min e (min f g)
  have he : k ≤ e := by omega
  have hf : k ≤ f := by omega
  have hg : k ≤ g := by omega
  rw [sameScaled_iff_at hb hc he hf] at hbc
  rw [sameScaled_iff_at hc hd hf hg] at hcd
  rw [sameScaled_iff_at hb hd he hg]
  exact hbc.trans hcd

/-! ### Values -/

/-- The exact value of a real number. -/
inductive Exact where
  /-- The number `coefficient * 10 ^ exponent`, with a sign. -/
  | finite (negative : Bool) (coefficient : Nat) (exponent : Int)
  | infinite (negative : Bool)
  | nan
deriving DecidableEq

namespace Exact

/-- Equality of values. Zero has no sign, and a value that is not a number equals nothing. -/
def equal : Exact → Exact → Bool
  | .finite s c e, .finite t d f =>
    if c = 0 ∨ d = 0 then c = d else s = t && sameScaled c e d f
  | .infinite s, .infinite t => s = t
  | _, _ => false

theorem equal_comm (a b : Exact) : a.equal b = b.equal a := by
  cases a <;> cases b <;> simp only [equal, eq_comm, sameScaled_comm, or_comm]

theorem equal_self {a : Exact} (h : a ≠ .nan) : a.equal a = true := by
  cases a with
  | finite s c e => by_cases hc : c = 0 <;> simp [equal, hc, sameScaled_self]
  | infinite s => simp [equal]
  | nan => exact absurd rfl h

theorem equal_trans {a b c : Exact} (hab : a.equal b = true) (hbc : b.equal c = true) :
    a.equal c = true := by
  cases a with
  | nan => cases hab
  | infinite s =>
    cases b with
    | infinite t =>
      cases c with
      | infinite u => simp_all [equal]
      | _ => cases hbc
    | _ => cases hab
  | finite s x e =>
    cases b with
    | finite t y f =>
      cases c with
      | finite u z g =>
        unfold equal at hab hbc ⊢
        by_cases hy : y = 0
        · have hx : x = 0 := by simpa [hy] using hab
          have hz : z = 0 := by simpa [hy, eq_comm] using hbc
          simp [hx, hz]
        · have hx : x ≠ 0 := by
            intro hx
            simp [hx, eq_comm, hy] at hab
          have hz : z ≠ 0 := by
            intro hz
            simp [hz, hy] at hbc
          simp only [hx, hy, hz, or_self, if_false, Bool.and_eq_true, decide_eq_true_eq]
            at hab hbc ⊢
          have hscaled := sameScaled_trans (by omega) (by omega) (by omega) hab.2 hbc.2
          exact ⟨hab.1.trans hbc.1, hscaled⟩
      | _ => cases hbc
    | _ => cases hab

def ofInt (n : Int) : Exact := .finite (n < 0) n.natAbs 0

/-- The value of a double. A negative power of two is a power of five over a power of ten. -/
def ofDouble (x : Double) : Exact :=
  match x.view with
  | .nan => .nan
  | .infinite => .infinite x.negative
  | .finite mantissa scale =>
    .finite x.negative (mantissa * Nat.pow 2 scale.toNat * Nat.pow 5 (-scale).toNat) (min scale 0)

def ofDecimal : Decimal → Exact
  | .finite negative c e => .finite negative c e
  | .infinite negative => .infinite negative
  | .nan _ _ _ _ => .nan

def isZero : Exact → Bool
  | .finite _ c _ => c = 0
  | _ => false

/-- The value without its fraction. A fraction with more places than the coefficient has binary
digits leaves nothing. -/
def truncate : Exact → Exact
  | .finite s c e =>
    if 0 ≤ e then .finite s c e
    else if c.log2 < (-e).toNat then .finite s 0 0
    else .finite s (c / Nat.pow 10 (-e).toNat) 0
  | x => x

end Exact

/-- The exact value of a number that may have an imaginary part. -/
structure ComplexValue where
  re : Exact
  im : Exact
deriving DecidableEq

namespace ComplexValue

def ofReal (x : Exact) : ComplexValue := ⟨x, .ofInt 0⟩

def equal (a b : ComplexValue) : Bool := a.re.equal b.re && a.im.equal b.im

theorem equal_comm (a b : ComplexValue) : a.equal b = b.equal a := by
  simp only [equal, Exact.equal_comm]

theorem equal_trans {a b c : ComplexValue} (hab : a.equal b = true) (hbc : b.equal c = true) :
    a.equal c = true := by
  simp only [equal, Bool.and_eq_true] at hab hbc ⊢
  exact ⟨Exact.equal_trans hab.1 hbc.1, Exact.equal_trans hab.2 hbc.2⟩

theorem equal_ofReal (x y : Exact) : (ofReal x).equal (ofReal y) = x.equal y := by
  simp [equal, ofReal, Exact.ofInt, Exact.equal]

def isZero (a : ComplexValue) : Bool := a.re.isZero && a.im.isZero

end ComplexValue
end Conformance
