import FlowWatch.Decimal.Reader
import FlowWatch.Log.Pattern
import FlowWatch.Text.Numeral

/-!
# Field values

What a log filter asks the value of a field to be: a truth value, a number, or a pattern that its
text must match.  A text is taken for the first of these that it can be.
-/

namespace FlowWatch.Log

/-- The value of a field; whole numbers are held in 64 bits, without sign or with one. -/
inductive FieldValue where
  | truth (value : Bool)
  | real (number : ExtendedDouble)
  | natural (n : Nat)
  /-- The number that is as far below zero. -/
  | negative (n : Nat)
  | pattern (text : String)
deriving DecidableEq, Repr

namespace FieldValue

/-- Reads a whole number, with a sign only if it is negative or as an ornament. -/
def readWhole? (cs : List Char) : Option FieldValue :=
  match Text.readNumeral Text.max64 cs, cs with
  | .ok n, _ => some (natural n)
  | .error _, '-' :: c :: digits =>
    match Text.readDigits (Nat.pow 2 63) 0 (c :: digits) with
    | .ok n => some (negative n)
    | .error _ => none
  | .error _, _ => none

/-- Reads a value; a text that is neither truth value nor number must be a pattern. -/
def read? (cs : List Char) : Option FieldValue :=
  if cs = "true".toList then some (truth true)
  else if cs = "false".toList then some (truth false)
  else ((readWhole? cs).orElse fun _ => (ExtendedDouble.read? cs).map real).orElse fun _ =>
    if Pattern.isPattern cs then some (pattern (String.ofList cs)) else none

/-- The value as it is written: numbers in one form, patterns as they were. -/
def text : FieldValue → String
  | truth value => if value then "true" else "false"
  | real number => number.text
  | natural n => toString n
  | negative n => if n = 0 then "0" else "-" ++ toString n
  | pattern text => text

/-- The place of a kind of value among the kinds. -/
def rank : FieldValue → Nat
  | truth _ => 0
  | real _ => 1
  | natural _ => 2
  | negative _ => 3
  | pattern _ => 4

/-- The order of values: by kind, and within a kind by value. -/
def order (v w : FieldValue) : Ordering :=
  match v, w with
  | truth a, truth b => compare a b
  | real x, real y => x.order y
  | natural m, natural n => compare m n
  | negative m, negative n => compare n m
  | pattern s, pattern t => compare s t
  | _, _ => compare v.rank w.rank

end FieldValue

end FlowWatch.Log
