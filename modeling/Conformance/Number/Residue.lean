import Conformance.Number.Exact

/-!
# Residues of numbers

The residue of a number by the prime `2 ^ 61 - 1`. Equal numbers of different types have one
residue, because it is taken of the exact value. A negative number has the negative residue of its
opposite.
-/

namespace Conformance

/-- The remainder of the power of `b` to an exponent of so many binary digits. -/
def powerResidue (m b : Nat) : Nat → Nat → Nat
  | 0, _ => 1 % m
  | digits + 1, exponent =>
    let root := powerResidue m (b * b % m) digits (exponent / 2)
    if exponent % 2 = 1 then b * root % m else root

theorem powerResidue_lt {m : Nat} (h : 0 < m) (b digits exponent : Nat) :
    powerResidue m b digits exponent < m := by
  induction digits generalizing b exponent with
  | zero => exact Nat.mod_lt _ h
  | succ digits ih =>
    simp only [powerResidue]
    split
    · exact Nat.mod_lt _ h
    · exact ih _ _

namespace Exact

def residuePrime : Nat := Nat.pow 2 61 - 1

/-- The residue of a power of ten. For a prime only the remainder of the exponent by one less than
the prime counts, which also gives the negative powers. -/
def powTenResidue (e : Int) : Nat :=
  powerResidue residuePrime 10 61 (e.emod (residuePrime - 1 : Nat)).toNat

/-- The residue of a value. No value has the residue minus one, infinity has one by agreement, and a
value that is not a number has none. -/
def residue? : Exact → Option Int
  | .finite negative c e =>
    let r := c % residuePrime * powTenResidue e % residuePrime
    some (if negative then (if r = 1 then -2 else -r) else r)
  | .infinite negative => some (if negative then -314159 else 314159)
  | .nan => none

theorem residue?_ofInt_zero : (ofInt 0).residue? = some 0 := by
  simp [residue?, ofInt]

end Exact

def ComplexValue.residue? (x : ComplexValue) : Option Int := do
  return (← x.re.residue?) + 1000003 * (← x.im.residue?)

theorem ComplexValue.residue?_ofReal (x : Exact) : (ofReal x).residue? = x.residue? := by
  cases h : x.residue? <;> simp [residue?, ofReal, h, Exact.residue?_ofInt_zero]

end Conformance
