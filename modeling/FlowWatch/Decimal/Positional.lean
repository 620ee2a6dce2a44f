import FlowWatch.Decimal.Shortest

/-!
# Positional decimals

A decimal written without an exponent, with as many zeros as it takes to bring its digits to their
places.
-/

namespace FlowWatch.Decimal

/-- The number of digits in front of the point; not positive if zeros follow it first. -/
def pointPlace (d : Decimal) : Int := ((toString d.digits).length : Int) + d.exponent

/-- A positive decimal in text; a whole number has no point. -/
def positional (d : Decimal) : String :=
  let digits := toString d.digits
  let point := d.pointPlace
  if 0 ≤ d.exponent then digits ++ "".pushn '0' d.exponent.toNat
  else if 0 < point then
    String.ofList (digits.toList.take point.toNat) ++ "." ++
      String.ofList (digits.toList.drop point.toNat)
  else "0." ++ "".pushn '0' (-point).toNat ++ digits

end FlowWatch.Decimal
