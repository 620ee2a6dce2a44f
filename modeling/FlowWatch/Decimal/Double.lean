/-!
# Doubles

The finite magnitudes of double precision, as exact dyadic numbers, with rounding to the nearest of
them.  A tie goes to the even significand.
-/

namespace FlowWatch

/-- The magnitude `mantissa * 2 ^ exponent`; the mantissa has at most 53 bits, and all of them
unless the exponent is the least one. -/
structure Double where
  mantissa : Nat
  exponent : Int
deriving DecidableEq, Repr

namespace Double

/-- The least exponent. -/
def minExponent : Int := -1074

/-- The greatest exponent. -/
def maxExponent : Int := 971

/-- The magnitude zero. -/
def zero : Double := ⟨0, minExponent⟩

/-- The magnitude is zero. -/
def isZero (d : Double) : Bool := d.mantissa == 0

/-- The quotient `num / den` rounded to a whole number, a half to the even one. -/
def roundHalfEven (num den : Nat) : Nat :=
  let q := num / den
  let r := num % den
  if 2 * r < den then q else if den < 2 * r then q + 1 else q + q % 2

/-- Numerator and denominator of `num / den / 2 ^ e`. -/
def scale (num den : Nat) (e : Int) : Nat × Nat :=
  if 0 ≤ e then (num, den * Nat.pow 2 e.toNat) else (num * Nat.pow 2 (-e).toNat, den)

/-- The exponent of the power of two just below the positive quotient `num / den`. -/
def binaryOrder (num den : Nat) : Int :=
  let k : Int := (num.log2 : Int) - den.log2
  let (n, d) := scale num den k
  if n < d then k - 1 else k

/-- The magnitude nearest to `num / den`; none if it lies beyond the greatest one. -/
def ofQuotient (num den : Nat) : Option Double :=
  if num = 0 then some zero
  else
    let e := max (binaryOrder num den - 52) minExponent
    let (n, d) := scale num den e
    let q := roundHalfEven n d
    let r : Double := if q = Nat.pow 2 53 then ⟨Nat.pow 2 52, e + 1⟩ else ⟨q, e⟩
    if r.exponent ≤ maxExponent then some r else none

/-- The magnitude nearest to a whole number. -/
def ofNat (n : Nat) : Option Double := ofQuotient n 1

/-- Numerator and denominator of a magnitude. -/
def toQuotient (d : Double) : Nat × Nat := scale d.mantissa 1 (-d.exponent)

/-- The product, rounded. -/
def mul (a b : Double) : Option Double :=
  ofQuotient (a.toQuotient.1 * b.toQuotient.1) (a.toQuotient.2 * b.toQuotient.2)

/-- The quotient, rounded. -/
def div (a b : Double) : Option Double :=
  ofQuotient (a.toQuotient.1 * b.toQuotient.2) (a.toQuotient.2 * b.toQuotient.1)

end Double

end FlowWatch
