import FlowWatch.Time.Calendar

/-!
# Time stamps

An instant in UTC to the nanosecond, by its calendar date and its time of day.  A leap second is the
second 60 of its minute, the one after the second 59.  A clock may be able to hold one after any
other second as well; it would be written as the next second and not be read back as what it is, and
no `Stamp` stands for it.
-/

namespace FlowWatch

/-- A date and a time of day in UTC. -/
structure Stamp where
  date : Date
  hour : Nat
  minute : Nat
  second : Nat
  nanos : Nat
deriving DecidableEq, Repr

namespace Stamp

/-- The instant exists: its date does, and its time of day lies on the clock. -/
def isValid (s : Stamp) : Bool :=
  s.date.isValid && s.hour < 24 && s.minute < 60 && s.second ≤ 60 && s.nanos < 1000000000

/-- Midnight of a date. -/
def midnight (date : Date) : Stamp := ⟨date, 0, 0, 0, 0⟩

/-- The instant `millis` milliseconds after a midnight. -/
def afterMidnight (date : Date) (millis : Nat) : Stamp where
  date := date.addDays (millis / 86400000)
  hour := millis / 3600000 % 24
  minute := millis / 60000 % 60
  second := millis / 1000 % 60
  nanos := millis % 1000 * 1000000

/-- The instant that a clock `offset` minutes ahead of UTC shows as `s`. -/
def ofLocal (s : Stamp) (offset : Int) : Stamp :=
  let minutes : Int := (s.hour * 60 + s.minute : Nat) - offset
  let (date, minutes) :=
    if minutes < 0 then (s.date.previous, minutes + 1440)
    else if 1440 ≤ minutes then (s.date.next, minutes - 1440)
    else (s.date, minutes)
  { s with date, hour := minutes.toNat / 60, minute := minutes.toNat % 60 }

@[simp]
theorem ofLocal_zero {s : Stamp} (hh : s.hour < 24) (hm : s.minute < 60) : s.ofLocal 0 = s := by
  obtain ⟨date, hour, minute, second, nanos⟩ := s
  simp only at hh hm
  have h1 : ¬ ((hour * 60 + minute : Nat) : Int) - 0 < 0 := by omega
  have h2 : ¬ 1440 ≤ ((hour * 60 + minute : Nat) : Int) - 0 := by omega
  simp only [ofLocal, h1, h2, if_false]
  congr 1 <;> omega

end Stamp

end FlowWatch
