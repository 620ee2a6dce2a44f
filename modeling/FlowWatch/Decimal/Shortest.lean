import FlowWatch.Decimal.Double

/-!
# Shortest decimals

The decimal with the fewest digits that reads back as a given double, and of those the nearest to
it.  The numbers that read back as `m * 2 ^ e` form an interval around it; a decimal of few digits
is a point of a coarse grid, so the grids of the powers of ten are tried from coarse to fine, and on
each of them the two neighbours of the double.
-/

namespace FlowWatch

/-- The decimal `digits * 10 ^ exponent`. -/
structure Decimal where
  digits : Nat
  exponent : Int
deriving DecidableEq, Repr

namespace Double

/-- Compares `a * 2 ^ e` with `c * 10 ^ k`, as the two sides of a comparison of whole numbers. -/
def crossTerms (a : Nat) (e : Int) (c : Nat) (k : Int) : Nat × Nat :=
  let left := a * Nat.pow 2 e.toNat * Nat.pow 10 (-k).toNat
  let right := c * Nat.pow 10 k.toNat * Nat.pow 2 (-e).toNat
  (left, right)

/-- The decimal `c * 10 ^ k` reads back as the double. -/
def readsBack (d : Double) (c : Nat) (k : Int) : Bool :=
  let e := d.exponent - 2
  let below := if d.mantissa = Nat.pow 2 52 && d.exponent > minExponent then 1 else 2
  let closed := d.mantissa % 2 == 0
  let (lo, x) := crossTerms (4 * d.mantissa - below) e c k
  let (hi, y) := crossTerms (4 * d.mantissa + 2) e c k
  if closed then lo ≤ x && y ≤ hi else lo < x && y < hi

/-- The whole part of the double over `10 ^ k`. -/
def gridFloor (d : Double) (k : Int) : Nat :=
  let (num, den) := d.toQuotient
  (num * Nat.pow 10 (-k).toNat) / (den * Nat.pow 10 k.toNat)

/-- The neighbour on the grid of `10 ^ k` that reads back and is nearest to the double. -/
def onGrid (d : Double) (k : Int) : Option Decimal :=
  let c := d.gridFloor k
  match d.readsBack c k, d.readsBack (c + 1) k with
  | true, true =>
    let (num, den) := d.toQuotient
    let (value, middle) := (2 * num * Nat.pow 10 (-k).toNat, (2 * c + 1) * Nat.pow 10 k.toNat * den)
    if value < middle || (value == middle && c % 2 == 0) then some ⟨c, k⟩ else some ⟨c + 1, k⟩
  | true, false => some ⟨c, k⟩
  | false, true => some ⟨c + 1, k⟩
  | false, false => none

/-- The first hit on the grids from `10 ^ k` downwards. -/
def firstOnGrid (d : Double) : Nat → Int → Decimal
  | 0, k => ⟨d.gridFloor k, k⟩
  | steps + 1, k => (d.onGrid k).getD (d.firstOnGrid steps (k - 1))

/-- The shortest decimal that reads back as a positive double. -/
def shortest (d : Double) : Decimal :=
  let order := ((d.mantissa.log2 : Int) + d.exponent + 1) * 30103
  d.firstOnGrid 20 (Int.fdiv order 100000 + 1)

end Double

end FlowWatch
