import FlowWatch.Decimal.Positional
import FlowWatch.Json.Value

/-!
# Reading and writing JSON numbers

A number is read with the digits that fit 64 bits; further digits only move the decimal point.  A
double is that significand times or over a power of ten, each rounded to a double and then the
result rounded once more.  It is written with the fewest digits that read back, positionally while
the point stays near them.
-/

namespace FlowWatch.JsonNumber

/-- The decimal digits are the ASCII ones. -/
def isDigit (c : Char) : Bool := '0' ≤ c && c ≤ '9'

/-- The value of a decimal digit. -/
def digitValue (c : Char) : Nat := c.toNat - '0'.toNat

/-- The greatest number that 64 bits hold. -/
def maxNatural : Nat := Nat.pow 2 64 - 1

/-- Appends digits to a significand while it fits, and counts the digits taken. -/
def takeDigits (significand taken : Nat) : List Char → Nat × Nat
  | [] => (significand, taken)
  | c :: cs =>
    let next := significand * 10 + digitValue c
    if next ≤ maxNatural then takeDigits next (taken + 1) cs else (significand, taken)

/-- The significand scaled by a power of ten; none beyond the greatest double. -/
def scaleByTen (d : Double) (exponent : Int) : Option Double :=
  if h : exponent.natAbs ≤ 308 then do
    let power ← Double.ofNat (Nat.pow 10 exponent.natAbs)
    if 0 ≤ exponent then d.mul power else d.div power
  else if d.isZero then some d
  else if 0 ≤ exponent then none
  else do
    let power ← Double.ofNat (Nat.pow 10 308)
    let smaller ← d.div power
    scaleByTen smaller (exponent + 308)
termination_by exponent.natAbs

/-- The exponent that a text of digits gives, if it can be counted in 31 bits. -/
def exponentOf? (digits : List Char) : Option Nat :=
  let n := digits.foldl (fun n c => if Nat.pow 2 31 ≤ n then n else n * 10 + digitValue c) 0
  if n < Nat.pow 2 31 then some n else none

/-- The parts of a number: sign, whole digits, digits after the point, sign and digits of the
exponent. -/
structure Parts where
  isNegative : Bool
  whole : List Char
  fraction : Option (List Char)
  exponent : Option (Bool × List Char)
deriving DecidableEq, Repr

/-- The double of a significand and a decimal exponent. -/
def doubleOf (isNegative : Bool) (significand : Nat) (exponent : Int) : Option JsonNumber := do
  let d ← Double.ofNat significand
  let scaled ← scaleByTen d exponent
  return .double isNegative scaled

/-- The value of a number; none if it lies beyond the greatest double. -/
def ofParts (p : Parts) : Option JsonNumber :=
  let (head, taken) := takeDigits 0 0 p.whole
  let dropped : Int := (p.whole.length - taken : Nat)
  let fraction := p.fraction.getD []
  let (significand, places) := takeDigits head 0 fraction
  let point := dropped - places
  match p.fraction, p.exponent with
  | none, none =>
    if dropped = 0 then
      if !p.isNegative then some (.natural head)
      else if 0 < head && head ≤ Nat.pow 2 63 then some (.negative head)
      else doubleOf true head 0
    else doubleOf p.isNegative head dropped
  | _, none => doubleOf p.isNegative significand point
  | _, some (negativeExponent, digits) =>
    match exponentOf? digits with
    | some n =>
      doubleOf p.isNegative significand (if negativeExponent then point - n else point + n)
    | none =>
      if significand ≠ 0 && !negativeExponent then none
      else some (.double p.isNegative .zero)

/-- Cuts off a fraction: a point and at least one digit. -/
def readFraction : List Char → Option (Option (List Char) × List Char)
  | '.' :: cs =>
    let digits := cs.takeWhile isDigit
    if digits.isEmpty then none else some (some digits, cs.dropWhile isDigit)
  | cs => some (none, cs)

/-- Cuts off the sign of an exponent. -/
def readExponentSign : List Char → Bool × List Char
  | '-' :: cs => (true, cs)
  | '+' :: cs => (false, cs)
  | cs => (false, cs)

/-- Cuts off an exponent: a letter, perhaps a sign, and at least one digit. -/
def readExponent : List Char → Option (Option (Bool × List Char) × List Char)
  | c :: cs =>
    if c = 'e' || c = 'E' then
      let (sign, cs) := readExponentSign cs
      let digits := cs.takeWhile isDigit
      if digits.isEmpty then none else some (some (sign, digits), cs.dropWhile isDigit)
    else some (none, c :: cs)
  | [] => some (none, [])

/-- Cuts off a number without its sign; more than one whole digit may not begin with zero. -/
def readUnsigned (isNegative : Bool) (cs : List Char) : Option (JsonNumber × List Char) := do
  let whole := cs.takeWhile isDigit
  if whole.isEmpty || (whole.head? == some '0' && whole.length > 1) then none
  else
    let (fraction, cs) ← readFraction (cs.dropWhile isDigit)
    let (exponent, cs) ← readExponent cs
    let n ← ofParts ⟨isNegative, whole, fraction, exponent⟩
    return (n, cs)

/-- Cuts off a number. -/
def read : List Char → Option (JsonNumber × List Char)
  | '-' :: cs => readUnsigned true cs
  | cs => readUnsigned false cs

/-- A positive decimal in text: positional while the point lies within sixteen digits to the right
of the first one or five to its left, else with an exponent and its sign. -/
def writeDecimal (d : Decimal) : String :=
  let point := d.pointPlace
  if -5 < point && point ≤ 16 then d.positional ++ (if 0 ≤ d.exponent then ".0" else "")
  else
    let mantissa := match (toString d.digits).toList with
      | first :: second :: rest => String.ofList (first :: '.' :: second :: rest)
      | digits => String.ofList digits
    mantissa ++ (if 0 < point then "e+" else "e") ++ toString (point - 1)

/-- A number in text; a double always shows a point or an exponent. -/
def write : JsonNumber → String
  | natural n => toString n
  | negative n => "-" ++ toString n
  | double isNegative d =>
    (if isNegative then "-" else "") ++ (if d.isZero then "0.0" else writeDecimal d.shortest)

end FlowWatch.JsonNumber
