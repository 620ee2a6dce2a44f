import FlowWatch.Time.Stamp

/-!
# Writing time stamps

A time stamp is written as date, `T`, time and `Z`, with as many digits after the second as it takes
in groups of three.  Years outside four digits carry a sign.
-/

namespace FlowWatch.Stamp

/-- A number with zeros in front, at least `width` digits long. -/
def padded (n width : Nat) : List Char :=
  let digits := Nat.toDigits 10 n
  List.replicate (width - digits.length) '0' ++ digits

/-- A year, with a sign if it is negative or has more than four digits. -/
def renderYear (year : Int) : List Char :=
  if year < 0 then '-' :: padded year.natAbs 4
  else if 9999 < year then '+' :: padded year.natAbs 5
  else padded year.natAbs 4

/-- A calendar date. -/
def renderDate (d : Date) : List Char :=
  renderYear d.year ++ '-' :: (padded d.month 2 ++ '-' :: padded d.day 2)

/-- Hour, minute and second. -/
def renderClock (s : Stamp) : List Char :=
  padded s.hour 2 ++ ':' :: (padded s.minute 2 ++ ':' :: padded s.second 2)

/-- The part after the second: nothing, or a point and three, six or nine digits. -/
def renderFraction (nanos : Nat) : List Char :=
  if nanos = 0 then []
  else if nanos % 1000000 = 0 then '.' :: padded (nanos / 1000000) 3
  else if nanos % 1000 = 0 then '.' :: padded (nanos / 1000) 6
  else '.' :: padded nanos 9

/-- The time stamp as messages write it. -/
def render (s : Stamp) : List Char :=
  renderDate s.date ++ 'T' :: (s.renderClock ++ (renderFraction s.nanos ++ ['Z']))

/-- The time stamp as messages write it, as a string. -/
def text (s : Stamp) : String := String.ofList s.render

/-- The time of day to the millisecond, as the table shows it. -/
def clockText (s : Stamp) : String :=
  String.ofList (s.renderClock ++ '.' :: padded (s.nanos / 1000000) 3)

end FlowWatch.Stamp
