import FlowWatch.Text.Blank
import FlowWatch.Time.Stamp

/-!
# Reading time stamps

A time stamp is a date, a letter T or a space, a time of day and an offset from UTC.  Blanks are
allowed around its parts, the second may have a fraction, and numbers may be shorter than they are
usually written.  Each part is checked for its range as it is read; that the date exists and can be
moved to UTC is checked last.
-/

namespace FlowWatch.Stamp

/-- Why a text is no time stamp. -/
inductive ReadError where
  | outOfRange
  | impossible
  | invalid
  | tooShort
  | tooLong
deriving DecidableEq, Repr

/-- The text of a refusal. -/
def ReadError.message : ReadError → String
  | outOfRange => "input is out of range"
  | impossible => "no possible date and time matching input"
  | invalid => "input contains invalid characters"
  | tooShort => "premature end of input"
  | tooLong => "trailing input"

/-- The decimal digits are the ASCII ones. -/
def isDigit (c : Char) : Bool := '0' ≤ c && c ≤ '9'

/-- The greatest number that is counted while digits are read. -/
def maxNumber : Nat := Nat.pow 2 63 - 1

/-- Reads at most `limit` digits after some of value `n`. -/
def readDigits (n : Nat) : Option Nat → List Char → Except ReadError (Nat × List Char)
  | some 0, cs => .ok (n, cs)
  | _, [] => .ok (n, [])
  | limit, c :: cs =>
    if isDigit c then
      let next := n * 10 + (c.toNat - '0'.toNat)
      if maxNumber < next then .error .outOfRange
      else readDigits next (limit.map (· - 1)) cs
    else .ok (n, c :: cs)

/-- Reads a number of at least one digit and at most `limit`. -/
def readNumber (limit : Option Nat) : List Char → Except ReadError (Nat × List Char)
  | [] => .error .tooShort
  | c :: cs => if isDigit c then readDigits 0 limit (c :: cs) else .error .invalid

/-- Reads one given character. -/
def readLiteral (expected : Char) : List Char → Except ReadError (Unit × List Char)
  | [] => .error .tooShort
  | c :: cs => if c = expected then .ok ((), cs) else .error .invalid

/-- Reads a number of at most two digits, after blanks, and checks its range. -/
def readField (lo hi : Nat) (cs : List Char) : Except ReadError (Nat × List Char) := do
  let (n, cs) ← readNumber (some 2) (Text.trimStart cs)
  if lo ≤ n && n ≤ hi then return (n, cs) else throw .outOfRange

/-- Checks that a year can be counted in 32 bits. -/
def checkYear (year : Int) (cs : List Char) : Except ReadError (Int × List Char) :=
  if -2147483648 ≤ year && year ≤ 2147483647 then .ok (year, cs) else .error .outOfRange

/-- Reads a year: four digits at most, or a sign and any number of them. -/
def readYear (cs : List Char) : Except ReadError (Int × List Char) :=
  match Text.trimStart cs with
  | '-' :: cs => do
    let (n, cs) ← readNumber none cs
    checkYear (-(n : Int)) cs
  | '+' :: cs => do
    let (n, cs) ← readNumber none cs
    checkYear n cs
  | cs => do
    let (n, cs) ← readNumber (some 4) cs
    checkYear n cs

/-- Reads a given character after blanks. -/
def readSeparator (expected : Char) (cs : List Char) : Except ReadError (Unit × List Char) :=
  readLiteral expected (Text.trimStart cs)

/-- Reads a calendar date. -/
def readDate (cs : List Char) : Except ReadError (Date × List Char) := do
  let (year, cs) ← readYear cs
  let (_, cs) ← readSeparator '-' cs
  let (month, cs) ← readField 1 12 cs
  let (_, cs) ← readSeparator '-' cs
  let (day, cs) ← readField 1 31 cs
  return (⟨year, month, day⟩, cs)

/-- Reads the character between date and time. -/
def readDivider : List Char → Except ReadError (Unit × List Char)
  | [] => .error .tooShort
  | c :: cs => if c = 't' || c = 'T' || c = ' ' then .ok ((), cs) else .error .invalid

/-- Reads the fraction of a second, if there is one: its first nine digits count. -/
def readFraction : List Char → Except ReadError (Nat × List Char)
  | '.' :: cs => do
    let (n, rest) ← readNumber (some 9) cs
    let digits := cs.length - rest.length
    return (n * Nat.pow 10 (9 - digits), rest.dropWhile isDigit)
  | cs => .ok (0, cs)

/-- Reads a time of day on a date. -/
def readClock (date : Date) (cs : List Char) : Except ReadError (Stamp × List Char) := do
  let (hour, cs) ← readField 0 23 cs
  let (_, cs) ← readSeparator ':' cs
  let (minute, cs) ← readField 0 59 cs
  let (_, cs) ← readSeparator ':' cs
  let (second, cs) ← readField 0 60 cs
  let (nanos, cs) ← readFraction cs
  return (⟨date, hour, minute, second, nanos⟩, cs)

/-- The two characters that two digits are read from; a text is too short for them by its bytes. -/
def twoChars : List Char → Except ReadError (Char × Char × List Char)
  | [] => .error .tooShort
  | [c] => if c.utf8Size < 2 then .error .tooShort else .error .invalid
  | a :: b :: rest => .ok (a, b, rest)

/-- The value of two digits. -/
def pairValue (a b : Char) : Nat := (a.toNat - '0'.toNat) * 10 + (b.toNat - '0'.toNat)

/-- Reads the hours and minutes of an offset, in minutes. -/
def readOffsetDigits (cs : List Char) : Except ReadError (Nat × List Char) := do
  let (a, b, cs) ← twoChars cs
  if !(isDigit a && isDigit b) then throw .invalid
  let (c, d, cs) ← twoChars (cs.dropWhile fun c => c = ':' || Text.isBlank c)
  if !(isDigit c && isDigit d) then throw .invalid
  if '6' ≤ c then throw .outOfRange
  return (pairValue a b * 60 + pairValue c d, cs)

/-- Reads an offset from UTC in minutes: a Z, or a sign with hours and minutes. -/
def readOffset : List Char → Except ReadError (Int × List Char)
  | [] => .error .tooShort
  | c :: cs =>
    if c = 'Z' || c = 'z' then .ok (0, cs)
    else if c = '+' then do
      let (n, cs) ← readOffsetDigits cs
      return ((n : Int), cs)
    else if c = '-' || c = '\u2212' then do
      let (n, cs) ← readOffsetDigits cs
      return (-(n : Int), cs)
    else .error .invalid

/-- Reads the zone at the end: the letters UTC or an offset. -/
def readZone : List Char → Except ReadError (Int × List Char)
  | a :: b :: c :: rest =>
    if a.toUpper = 'U' && b.toUpper = 'T' && c.toUpper = 'C' then .ok (0, rest)
    else readOffset (a :: b :: c :: rest)
  | cs => readOffset cs

/-- Moves a time of day read in a zone to UTC, if its date exists there and in UTC. -/
def moveToUtc (s : Stamp) (offset : Int) : Except ReadError Stamp :=
  if !s.date.isValid then .error .outOfRange
  else if 1440 ≤ offset.natAbs then .error .outOfRange
  else
    let moved := s.ofLocal offset
    if moved.date.isValid then .ok moved else .error .impossible

/-- Reads a time stamp. -/
def read (cs : List Char) : Except ReadError Stamp := do
  let (date, cs) ← readDate cs
  let (_, cs) ← readDivider cs
  let (s, cs) ← readClock date cs
  let (offset, cs) ← readZone (Text.trimStart cs)
  if !(Text.trimStart cs).isEmpty then throw .tooLong
  moveToUtc s offset

end FlowWatch.Stamp
