import Conformance.Number.Double

/-!
# The fewest digits that read back

A finite double stands for the interval of reals that round to it. `Double.shortest` looks for the
decimal with the fewest digits in that interval, and among those for the one nearest to the double,
a tie going to the even digit. All comparisons are exact comparisons of natural numbers.
-/

namespace Conformance

structure ScaledDecimal where
  digits : Nat
  exponent : Int
deriving DecidableEq, Repr

namespace ScaledDecimal

def compareBinary (d : ScaledDecimal) (n : Nat) (j : Int) : Ordering :=
  compare (d.digits * Nat.pow 10 d.exponent.toNat * Nat.pow 2 (-j).toNat)
    (n * Nat.pow 2 j.toNat * Nat.pow 10 (-d.exponent).toNat)

/-- Moves trailing zeros of the digits into the exponent. The fuel is the number of digits. -/
def normalize : Nat → ScaledDecimal → ScaledDecimal
  | 0, d => d
  | fuel + 1, d =>
    if d.digits ≠ 0 ∧ d.digits % 10 = 0 then normalize fuel ⟨d.digits / 10, d.exponent + 1⟩ else d

end ScaledDecimal

namespace Double

/-- Does the decimal lie among the reals that round to `mantissa * 2 ^ scale`? The ends of the
interval belong to it when the mantissa is even. -/
def readsBack (mantissa : Nat) (scale : Int) (narrow : Bool) (d : ScaledDecimal) : Bool :=
  let low := if narrow then 4 * mantissa - 1 else 4 * mantissa - 2
  let closed := mantissa % 2 = 0
  let below := d.compareBinary low (scale - 2)
  let above := d.compareBinary (4 * mantissa + 2) (scale - 2)
  (below = .gt || (closed && below = .eq)) && (above = .lt || (closed && above = .eq))

/-- The least power of ten above `mantissa * 2 ^ scale`, searched upwards from an estimate. -/
def decimalScale (mantissa : Nat) (scale : Int) : Nat → Int → Int
  | 0, k => k
  | fuel + 1, k =>
    if (ScaledDecimal.mk 1 k).compareBinary mantissa scale = .gt then k
    else decimalScale mantissa scale fuel (k + 1)

/-- The neighbours of `mantissa * 2 ^ scale` on the grid of multiples of `10 ^ g` that read back,
the better one first. -/
def neighbours (mantissa : Nat) (scale : Int) (narrow : Bool) (g : Int) : List ScaledDecimal :=
  let d := mantissa * Nat.pow 2 scale.toNat * Nat.pow 10 (-g).toNat /
    (Nat.pow 10 g.toNat * Nat.pow 2 (-scale).toNat)
  let down : ScaledDecimal := ⟨d, g⟩
  let up : ScaledDecimal := ⟨d + 1, g⟩
  let middle := (ScaledDecimal.mk (2 * d + 1) g).compareBinary (2 * mantissa) scale
  let downFirst := middle = .gt || (middle = .eq && d % 2 = 0)
  (if downFirst then [down, up] else [up, down]).filter (readsBack mantissa scale narrow)

/-- Tries the grids of one digit, two digits, and so on. -/
def searchGrids (mantissa : Nat) (scale : Int) (narrow : Bool) : Nat → Int → Option ScaledDecimal
  | 0, _ => none
  | fuel + 1, g =>
    match neighbours mantissa scale narrow g with
    | d :: _ => some d
    | [] => searchGrids mantissa scale narrow fuel (g - 1)

/-- The exact decimal expansion of `mantissa * 2 ^ scale`. -/
def exactDecimal (mantissa : Nat) (scale : Int) : ScaledDecimal :=
  ⟨mantissa * Nat.pow 2 scale.toNat * Nat.pow 5 (-scale).toNat, min scale 0⟩

/-- The decimal of fewest digits that reads back as `mantissa * 2 ^ scale`. -/
def shortest (mantissa : Nat) (scale : Int) (narrow : Bool) : ScaledDecimal :=
  if mantissa = 0 then ⟨0, 0⟩
  else
    let estimate := ((mantissa.log2 : Int) + scale) * 30103 / 100000 - 1
    let top := decimalScale mantissa scale 4 estimate
    let found := searchGrids mantissa scale narrow 17 (top - 1)
    (found.getD (exactDecimal mantissa scale)).normalize 400

theorem shortest_zero (scale : Int) (narrow : Bool) : shortest 0 scale narrow = ⟨0, 0⟩ := rfl

theorem mem_neighbours_readsBack {mantissa : Nat} {scale : Int} {narrow : Bool} {g : Int}
    {d : ScaledDecimal} (h : d ∈ neighbours mantissa scale narrow g) :
    readsBack mantissa scale narrow d = true :=
  (List.mem_filter.1 h).2

theorem searchGrids_readsBack {mantissa : Nat} {scale : Int} {narrow : Bool} {fuel : Nat} {g : Int}
    {d : ScaledDecimal} (h : searchGrids mantissa scale narrow fuel g = some d) :
    readsBack mantissa scale narrow d = true := by
  induction fuel generalizing g with
  | zero => simp [searchGrids] at h
  | succ fuel ih =>
    simp only [searchGrids] at h
    split at h
    · rename_i first rest hn
      have hmem : first ∈ neighbours mantissa scale narrow g := by simp [hn]
      rw [← Option.some.inj h]
      exact mem_neighbours_readsBack hmem
    · exact ih h

end Double
end Conformance
