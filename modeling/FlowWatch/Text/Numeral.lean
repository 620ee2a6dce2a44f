/-!
# Numerals

Reads natural numbers as options and variables write them: an optional plus sign and decimal digits,
leading zeros allowed.  The first fault from the left is the one that is reported.
-/

namespace FlowWatch.Text

/-- Why a text is no number. -/
inductive NumeralError where
  | empty
  | invalidDigit
  | tooLarge
deriving DecidableEq, Repr

/-- The text of the refusal. -/
def NumeralError.message : NumeralError → String
  | empty => "cannot parse integer from empty string"
  | invalidDigit => "invalid digit found in string"
  | tooLarge => "number too large to fit in target type"

/-- The value of a decimal digit. -/
def digit? (c : Char) : Option Nat := if c.isDigit then some (c.toNat - '0'.toNat) else none

/-- Reads the digits after a number read so far, none of which may lead beyond `limit`. -/
def readDigits (limit value : Nat) : List Char → Except NumeralError Nat
  | [] => .ok value
  | c :: cs =>
    match digit? c with
    | none => .error .invalidDigit
    | some d => if value * 10 + d ≤ limit then readDigits limit (value * 10 + d) cs
      else .error .tooLarge

/-- Reads a number of at most `limit`. -/
def readNumeral (limit : Nat) : List Char → Except NumeralError Nat
  | [] => .error .empty
  | ['+'] => .error .invalidDigit
  | '+' :: cs => readDigits limit 0 cs
  | cs => readDigits limit 0 cs

/-- The highest number of 32 bits. -/
def max32 : Nat := 4294967295

/-- The highest number of 64 bits. -/
def max64 : Nat := 18446744073709551615

theorem readDigits_le {limit value n : Nat} {cs : List Char} (hv : value ≤ limit)
    (h : readDigits limit value cs = .ok n) : n ≤ limit := by
  induction cs generalizing value with
  | nil =>
    cases h
    exact hv
  | cons c cs ih =>
    unfold readDigits at h
    split at h
    · cases h
    · split at h
      · exact ih ‹_› h
      · cases h

/-- A number that is read is no higher than the limit. -/
theorem readNumeral_le {limit n : Nat} {cs : List Char} (h : readNumeral limit cs = .ok n) :
    n ≤ limit := by
  unfold readNumeral at h
  split at h
  · cases h
  · cases h
  · exact readDigits_le (Nat.zero_le _) h
  · exact readDigits_le (Nat.zero_le _) h

end FlowWatch.Text
