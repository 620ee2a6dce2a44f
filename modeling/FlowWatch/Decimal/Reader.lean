import FlowWatch.Decimal.Positional

/-!
# Reading decimals as doubles

A decimal in text, with or without a point and an exponent, stands for the double nearest to it; one
beyond the greatest double stands for infinity.  Infinity and the value that is no number have names
of their own.
-/

namespace FlowWatch

/-- A double with its sign, an infinity, or the value that is no number. -/
inductive ExtendedDouble where
  | finite (isNegative : Bool) (magnitude : Double)
  | infinite (isNegative : Bool)
  | notANumber
deriving DecidableEq, Repr

/-- The magnitude nearest to `digits * 10 ^ exponent`; none beyond the greatest one.  Decimals far
beyond all magnitudes are not computed. -/
def Double.ofDecimal (digits : Nat) (exponent : Int) : Option Double :=
  let order : Int := ((toString digits).length : Int) + exponent
  if digits = 0 || order < -400 then some .zero
  else if 400 < order then none
  else ofQuotient (digits * Nat.pow 10 exponent.toNat) (Nat.pow 10 (-exponent).toNat)

/-- The order of magnitudes: of two exponents the higher one belongs to the greater magnitude, since
all mantissas but those of the least exponent have the same length. -/
def Double.order (a b : Double) : Ordering :=
  (compare a.exponent b.exponent).then (compare a.mantissa b.mantissa)

namespace ExtendedDouble

/-- The number that a text of decimal digits stands for. -/
def digitsValue (digits : List Char) : Nat :=
  digits.foldl (fun n c => n * 10 + (c.toNat - '0'.toNat)) 0

/-- Reads an exponent, or nothing. -/
def readExponent? : List Char → Option Int
  | [] => some 0
  | c :: cs =>
    let (isNegative, digits) := match cs with
      | '-' :: digits => (true, digits)
      | '+' :: digits => (false, digits)
      | digits => (false, digits)
    if (c ≠ 'e' && c ≠ 'E') || digits.isEmpty || digits.any (!·.isDigit) then none
    else some (if isNegative then -(digitsValue digits : Int) else digitsValue digits)

/-- Reads an unsigned decimal: digits before or after the point, or both. -/
def readUnsigned? (isNegative : Bool) (cs : List Char) : Option ExtendedDouble := do
  let whole := cs.takeWhile Char.isDigit
  let (fraction, rest) := match cs.dropWhile Char.isDigit with
    | '.' :: rest => (rest.takeWhile Char.isDigit, rest.dropWhile Char.isDigit)
    | rest => ([], rest)
  if whole.isEmpty && fraction.isEmpty then none
  else
    let exponent ← readExponent? rest
    match Double.ofDecimal (digitsValue (whole ++ fraction)) (exponent - fraction.length) with
    | some magnitude => some (finite isNegative magnitude)
    | none => some (infinite isNegative)

/-- Reads a number or the name of one, in any case. -/
def readMagnitude? (isNegative : Bool) (cs : List Char) : Option ExtendedDouble :=
  let name := (String.ofList cs).toLower
  if name = "inf" || name = "infinity" then some (infinite isNegative)
  else if name = "nan" then some notANumber
  else readUnsigned? isNegative cs

/-- Reads a number with an optional sign. -/
def read? : List Char → Option ExtendedDouble
  | '-' :: cs => readMagnitude? true cs
  | '+' :: cs => readMagnitude? false cs
  | cs => readMagnitude? false cs

/-- The number in text: the fewest digits that read back, without an exponent. -/
def text : ExtendedDouble → String
  | finite isNegative d =>
    (if isNegative then "-" else "") ++ (if d.isZero then "0" else d.shortest.positional)
  | infinite isNegative => if isNegative then "-inf" else "inf"
  | notANumber => "NaN"

/-- The sign of a number, by which it is ordered first; the value that is no number comes last. -/
def sign : ExtendedDouble → Int
  | finite isNegative d => if d.isZero then 0 else if isNegative then -1 else 1
  | infinite isNegative => if isNegative then -2 else 2
  | notANumber => 3

/-- The order of numbers; both zeros are equal. -/
def order (x y : ExtendedDouble) : Ordering :=
  match x, y with
  | finite isNegative d, finite _ e =>
    (compare x.sign y.sign).then (if isNegative then e.order d else d.order e)
  | _, _ => compare x.sign y.sign

end ExtendedDouble

end FlowWatch
