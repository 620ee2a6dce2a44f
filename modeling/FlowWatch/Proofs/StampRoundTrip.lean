import Mathlib
import FlowWatch.Proofs.Numerals

/-!
# Time stamps that are read back

Every part of a time stamp is written as a numeral and followed by what is no digit, so that its
reader stops after it (`readField_padded`, `readYear_renderYear`).  A fraction is written with as many
digits as it needs and read as if it had nine.  Therefore a time stamp that exists is read back as
the same instant, be it a leap second or in a year of any sign and length (`read_render`).

In turn every time stamp that is read exists (`isValid_of_read`): its date is checked, and the ranges
of its fields and a move by less than a day keep its time on the clock.
-/

namespace FlowWatch

/-- What follows a success goes on from its value. -/
@[simp]
lemma ok_bind {ε α β : Type} (a : α) (f : α → Except ε β) : (Except.ok a >>= f) = f a := rfl

/-- A success comes from successes. -/
lemma exists_of_bind_eq_ok {ε α β : Type} {read : Except ε α} {f : α → Except ε β} {b : β}
    (h : (read >>= f) = .ok b) : ∃ a, read = .ok a ∧ f a = .ok b := by
  cases read with
  | error e => cases h
  | ok a => exact ⟨a, rfl, h⟩

namespace Stamp

/-! ## Parts -/

lemma toNat_of_isDigit {c : Char} (h : isDigit c = true) : 48 ≤ c.toNat ∧ c.toNat ≤ 57 := by
  simpa [isDigit, Char.le_def, UInt32.le_iff_toNat_le] using h

/-- A digit is no blank. -/
lemma isBlank_eq_false {c : Char} (h : isDigit c = true) : Text.isBlank c = false := by
  have hrange := toNat_of_isDigit h
  simp only [Text.isBlank, Bool.or_eq_false_iff, Bool.and_eq_false_iff, decide_eq_false_iff_not,
    beq_eq_false_iff_ne]
  omega

/-- There are no blanks in front of a numeral. -/
lemma trimStart_padded (n width : Nat) (rest : List Char) :
    Text.trimStart (padded n width ++ rest) = padded n width ++ rest := by
  obtain ⟨c, cs, hdigits, hdigit⟩ := exists_padded_eq_cons n width
  have hblank := isBlank_eq_false hdigit
  rw [hdigits, List.cons_append, Text.trimStart, List.dropWhile_cons_of_neg (by simp [hblank])]

/-- A number of two digits is read back if it is in range. -/
lemma readField_padded {lo hi n : Nat} {rest : List Char} (hlo : lo ≤ n) (hhi : n ≤ hi)
    (hn : n < 100) (hrest : NoDigit rest) :
    readField lo hi (padded n 2 ++ rest) = .ok (n, rest) := by
  have hlength : ∀ k ∈ some 2, (padded n 2).length ≤ k := by
    simp [length_padded (show 0 < 2 by decide) hn]
  have hmax : n ≤ maxNumber := hn.le.trans (by decide)
  rw [readField, trimStart_padded, readNumber_padded hmax hlength hrest, ok_bind]
  simp only [hlo, hhi, decide_true, Bool.and_true, if_true]
  rfl

/-- A separator is read back. -/
lemma readSeparator_cons {c : Char} (h : Text.isBlank c = false) (rest : List Char) :
    readSeparator c (c :: rest) = .ok ((), rest) := by
  rw [readSeparator, Text.trimStart, List.dropWhile_cons_of_neg (by simp [h]), readLiteral,
    if_pos rfl]

/-- A numeral does not begin with a sign. -/
lemma padded_append_ne {n width : Nat} {rest more : List Char} {c : Char}
    (h : isDigit c = false) : padded n width ++ rest ≠ c :: more := by
  obtain ⟨d, cs, hdigits, hdigit⟩ := exists_padded_eq_cons n width
  rw [hdigits]
  rintro ⟨⟩
  rw [h] at hdigit
  cases hdigit

/-- A year that is supported is read back. -/
lemma readYear_renderYear {year : Int} (hmin : Date.minYear ≤ year) (hmax : year ≤ Date.maxYear)
    {rest : List Char} (hrest : NoDigit rest) :
    readYear (renderYear year ++ rest) = .ok (year, rest) := by
  rw [Date.minYear] at hmin
  rw [Date.maxYear] at hmax
  have hbound : year.natAbs ≤ maxNumber := by
    have hlarge : 262143 ≤ maxNumber := by decide
    omega
  have hcheck : checkYear year rest = .ok (year, rest) := by
    rw [checkYear, if_pos]
    simp only [Bool.and_eq_true, decide_eq_true_eq]
    omega
  rw [renderYear]
  split_ifs with hnegative hlong
  · have hsign : Text.trimStart ('-' :: (padded year.natAbs 4 ++ rest)) =
        '-' :: (padded year.natAbs 4 ++ rest) := rfl
    have hvalue : -(year.natAbs : Int) = year := by omega
    simp only [List.cons_append, readYear, hsign]
    rw [readNumber_padded hbound (by simp) hrest, ok_bind]
    simp only [hvalue, hcheck]
  · have hsign : Text.trimStart ('+' :: (padded year.natAbs 5 ++ rest)) =
        '+' :: (padded year.natAbs 5 ++ rest) := rfl
    have hvalue : (year.natAbs : Int) = year := by omega
    simp only [List.cons_append, readYear, hsign]
    rw [readNumber_padded hbound (by simp) hrest, ok_bind]
    simp only [hvalue, hcheck]
  · have hlength : ∀ k ∈ some 4, (padded year.natAbs 4).length ≤ k := by
      simp [length_padded (show 0 < 4 by decide) (show year.natAbs < 10 ^ 4 by omega)]
    have hvalue : (year.natAbs : Int) = year := by omega
    simp only [readYear, trimStart_padded]
    split
    · exact absurd ‹_› (padded_append_ne rfl)
    · exact absurd ‹_› (padded_append_ne rfl)
    · rw [readNumber_padded hbound hlength hrest, ok_bind]
      simp only [hvalue, hcheck]

/-- A month has no more than thirty-one days. -/
lemma daysInMonth_le (year : Int) (month : Nat) : Date.daysInMonth year month ≤ 31 := by
  rw [Date.daysInMonth]
  split_ifs <;> decide

/-- A date that exists is read back. -/
lemma readDate_renderDate {d : Date} (h : d.isValid = true) {rest : List Char}
    (hrest : NoDigit rest) :
    readDate (renderDate d ++ rest) = .ok (d, rest) := by
  simp only [Date.isValid, Bool.and_eq_true, decide_eq_true_eq] at h
  obtain ⟨⟨⟨⟨⟨hmin, hmax⟩, hmonth⟩, hmonth'⟩, hday⟩, hday'⟩ := h
  have hlast := hday'.trans (daysInMonth_le d.year d.month)
  have hdash : ∀ more, NoDigit ('-' :: more) := noDigit_cons rfl
  have hreadYear := fun more => readYear_renderYear hmin hmax (hdash more)
  have hreadMonth := fun more => readField_padded hmonth hmonth' (by omega) (hdash more)
  have hreadDay := readField_padded hday hlast (by omega) hrest
  have hreadDash := readSeparator_cons (show Text.isBlank '-' = false from rfl)
  simp only [renderDate, List.append_assoc, List.cons_append, readDate, hreadYear, hreadDash,
    hreadMonth, hreadDay, ok_bind]
  rfl

/-- A fraction is read back up to the `Z`. -/
lemma readFraction_renderFraction {nanos : Nat} (h : nanos < 1000000000) :
    readFraction (renderFraction nanos ++ ['Z']) = .ok (nanos, ['Z']) := by
  -- so many digits stand for a multiple of a power of ten
  have hdigits : ∀ width ≤ 9, 0 < width → ∀ n < 10 ^ width,
      readFraction ('.' :: (padded n width ++ ['Z'])) = .ok (n * 10 ^ (9 - width), ['Z']) := by
    intro width hwidth hpos n hn
    have hlength := length_padded hpos hn
    have hmax : n ≤ maxNumber := by
      have hpow : 10 ^ width ≤ 10 ^ 9 := Nat.pow_le_pow_right (by decide) hwidth
      have hlarge : 10 ^ 9 ≤ maxNumber := by decide
      omega
    have hcount : (padded n width ++ ['Z']).length - ['Z'].length = width := by simp [hlength]
    have hread : readNumber (some 9) (padded n width ++ ['Z']) = .ok (n, ['Z']) :=
      readNumber_padded hmax (by simpa [hlength] using hwidth) (noDigit_cons rfl [])
    rw [readFraction, hread, ok_bind]
    simp only [hcount]
    rfl
  rw [renderFraction]
  split_ifs with hnone hmillis hmicros
  · rw [hnone]
    rfl
  · have hvalue : nanos / 1000000 * 10 ^ (9 - 3) = nanos := by omega
    rw [List.cons_append, hdigits 3 (by decide) (by decide) _ (by omega), hvalue]
  · have hvalue : nanos / 1000 * 10 ^ (9 - 6) = nanos := by omega
    rw [List.cons_append, hdigits 6 (by decide) (by decide) _ (by omega), hvalue]
  · have hvalue : nanos * 10 ^ (9 - 9) = nanos := by omega
    rw [List.cons_append, hdigits 9 (by decide) (by decide) _ (by omega), hvalue]

/-- A time of day is read back, and the fraction after it. -/
lemma readClock_renderClock {s : Stamp} (hhour : s.hour < 24) (hminute : s.minute < 60)
    (hsecond : s.second ≤ 60) (hnanos : s.nanos < 1000000000) :
    readClock s.date (s.renderClock ++ (renderFraction s.nanos ++ ['Z'])) = .ok (s, ['Z']) := by
  have hcolon : ∀ more, NoDigit (':' :: more) := noDigit_cons rfl
  have hafter : NoDigit (renderFraction s.nanos ++ ['Z']) := by
    rw [renderFraction]
    split_ifs <;> exact noDigit_cons rfl _
  have hreadHour := fun more =>
    readField_padded (Nat.zero_le _) (show s.hour ≤ 23 by omega) (by omega) (hcolon more)
  have hreadMinute := fun more =>
    readField_padded (Nat.zero_le _) (show s.minute ≤ 59 by omega) (by omega) (hcolon more)
  have hreadSecond := readField_padded (Nat.zero_le _) hsecond (by omega) hafter
  have hreadColon := readSeparator_cons (show Text.isBlank ':' = false from rfl)
  have hreadNanos := readFraction_renderFraction hnanos
  simp only [renderClock, List.append_assoc, List.cons_append, readClock, hreadHour, hreadColon,
    hreadMinute, hreadSecond, hreadNanos, ok_bind]
  rfl

/-- **A time stamp that exists is read back.** -/
theorem read_render {s : Stamp} (h : s.isValid = true) : read s.render = .ok s := by
  simp only [isValid, Bool.and_eq_true, decide_eq_true_eq] at h
  obtain ⟨⟨⟨⟨hdate, hhour⟩, hminute⟩, hsecond⟩, hnanos⟩ := h
  have hdivider : ∀ more, NoDigit ('T' :: more) := noDigit_cons rfl
  have hreadDate := fun more => readDate_renderDate hdate (hdivider more)
  have hreadDivider : ∀ more, readDivider ('T' :: more) = .ok ((), more) := fun _ => rfl
  have hreadClock := readClock_renderClock hhour hminute hsecond hnanos
  have hreadZone : readZone (Text.trimStart ['Z']) = .ok (0, []) := rfl
  have hmove : moveToUtc s 0 = .ok s := by
    rw [moveToUtc, ofLocal_zero hhour hminute]
    simp [hdate]
  simp only [read, render, hreadDate, hreadDivider, hreadClock, hreadZone, ok_bind, hmove]
  rfl

/-! ## Ranges -/

/-- Digits that are read are as many as allowed at most, and have no greater value than that many
digits can have. -/
lemma readDigits_lt {n m : Nat} {limit : Option Nat} {cs rest : List Char}
    (h : readDigits n limit cs = .ok (m, rest)) :
    ∃ taken, cs = taken ++ rest ∧ m < (n + 1) * 10 ^ taken.length ∧
      ∀ k ∈ limit, taken.length ≤ k := by
  fun_induction readDigits n limit cs with
  | case1 n cs =>
    cases h
    exact ⟨[], rfl, by simp, by simp⟩
  | case2 n limit hmore =>
    cases h
    exact ⟨[], rfl, by simp, by simp⟩
  | case3 n limit c cs hmore hdigit next hlarge => cases h
  | case4 n limit c cs hmore hdigit next hfits ih =>
    obtain ⟨taken, rfl, hvalue, hcount⟩ := ih h
    have hnext : next + 1 ≤ (n + 1) * 10 := by
      have hnine := (toNat_of_isDigit hdigit).2
      simp only [next, Char.reduceToNat]
      omega
    refine ⟨c :: taken, rfl, ?_, ?_⟩
    · calc
        m < (next + 1) * 10 ^ taken.length := hvalue
        _ ≤ (n + 1) * 10 * 10 ^ taken.length := Nat.mul_le_mul_right _ hnext
        _ = (n + 1) * 10 ^ (c :: taken).length := by
          rw [List.length_cons, Nat.pow_succ', Nat.mul_assoc]
    · intro k hk
      have hpos : k ≠ 0 := by
        rintro rfl
        exact hmore hk
      have hless := hcount (k - 1) (Option.mem_map_of_mem _ hk)
      rw [List.length_cons]
      omega
  | case5 n limit c cs hmore hother =>
    cases h
    exact ⟨[], rfl, by simp, by simp⟩

/-- A number that is read has the value of so many digits at most. -/
lemma readNumber_lt {n : Nat} {limit : Option Nat} {cs rest : List Char}
    (h : readNumber limit cs = .ok (n, rest)) :
    ∃ taken, cs = taken ++ rest ∧ n < 10 ^ taken.length ∧ ∀ k ∈ limit, taken.length ≤ k := by
  cases cs with
  | nil => cases h
  | cons c cs =>
    rw [readNumber] at h
    split at h
    · simpa using readDigits_lt h
    · cases h

/-- A field that is read is in its range. -/
lemma readField_range {lo hi n : Nat} {cs rest : List Char}
    (h : readField lo hi cs = .ok (n, rest)) : lo ≤ n ∧ n ≤ hi := by
  obtain ⟨⟨m, more⟩, -, hcheck⟩ := exists_of_bind_eq_ok h
  simp only at hcheck
  split at hcheck
  · rename_i hrange
    cases hcheck
    simpa using hrange
  · cases hcheck

/-- A fraction that is read is less than a second. -/
lemma readFraction_lt {nanos : Nat} {cs rest : List Char}
    (h : readFraction cs = .ok (nanos, rest)) : nanos < 1000000000 := by
  rw [readFraction.eq_def] at h
  split at h
  · rename_i cs
    obtain ⟨⟨n, more⟩, hread, h⟩ := exists_of_bind_eq_ok h
    obtain ⟨taken, rfl, hvalue, hcount⟩ := readNumber_lt hread
    have hdigits : (taken ++ more).length - more.length = taken.length := by simp
    have hnine : taken.length ≤ 9 := hcount 9 rfl
    cases h
    calc
      n * 10 ^ (9 - ((taken ++ more).length - more.length)) <
          10 ^ taken.length * 10 ^ (9 - taken.length) := by
        rw [hdigits]
        exact Nat.mul_lt_mul_of_pos_right hvalue (Nat.pow_pos (by decide))
      _ = 10 ^ 9 := by rw [← Nat.pow_add, Nat.add_sub_cancel' hnine]
  · cases h
    decide

/-- A time of day that is read is on the clock. -/
lemma readClock_range {date : Date} {s : Stamp} {cs rest : List Char}
    (h : readClock date cs = .ok (s, rest)) :
    s.hour < 24 ∧ s.minute < 60 ∧ s.second ≤ 60 ∧ s.nanos < 1000000000 := by
  obtain ⟨⟨hour, _⟩, hhour, h⟩ := exists_of_bind_eq_ok h
  obtain ⟨⟨_, _⟩, -, h⟩ := exists_of_bind_eq_ok h
  obtain ⟨⟨minute, _⟩, hminute, h⟩ := exists_of_bind_eq_ok h
  obtain ⟨⟨_, _⟩, -, h⟩ := exists_of_bind_eq_ok h
  obtain ⟨⟨second, _⟩, hsecond, h⟩ := exists_of_bind_eq_ok h
  obtain ⟨⟨nanos, _⟩, hnanos, h⟩ := exists_of_bind_eq_ok h
  cases h
  exact ⟨Nat.lt_succ_of_le (readField_range hhour).2, Nat.lt_succ_of_le (readField_range hminute).2,
    (readField_range hsecond).2, readFraction_lt hnanos⟩

/-- A clock that is less than a day ahead or behind shows a time of day. -/
lemma ofLocal_clock {s : Stamp} {offset : Int} (hhour : s.hour < 24) (hminute : s.minute < 60)
    (hoffset : offset.natAbs < 1440) :
    (s.ofLocal offset).hour < 24 ∧ (s.ofLocal offset).minute < 60 := by
  simp only [ofLocal]
  split_ifs <;> omega

/-- A time of day that is moved to UTC stays on the clock. -/
lemma isValid_of_moveToUtc {s moved : Stamp} {offset : Int} (hhour : s.hour < 24)
    (hminute : s.minute < 60) (hsecond : s.second ≤ 60) (hnanos : s.nanos < 1000000000)
    (h : moveToUtc s offset = .ok moved) : moved.isValid = true := by
  rw [moveToUtc] at h
  split at h
  · cases h
  · split at h
    · cases h
    · rename_i hoffset
      simp only at h
      split at h
      · rename_i hdate
        cases h
        obtain ⟨hhour', hminute'⟩ := ofLocal_clock hhour hminute (Nat.not_le.mp hoffset)
        have hsecond' : (s.ofLocal offset).second ≤ 60 := hsecond
        have hnanos' : (s.ofLocal offset).nanos < 1000000000 := hnanos
        simp only [isValid, hdate, hhour', hminute', hsecond', hnanos', decide_true, Bool.and_true]
      · cases h

/-- A time stamp that is read exists. -/
theorem isValid_of_read {s : Stamp} {cs : List Char} (h : read cs = .ok s) : s.isValid = true := by
  obtain ⟨⟨date, _⟩, -, h⟩ := exists_of_bind_eq_ok h
  obtain ⟨⟨_, _⟩, -, h⟩ := exists_of_bind_eq_ok h
  obtain ⟨⟨clock, _⟩, hclock, h⟩ := exists_of_bind_eq_ok h
  obtain ⟨⟨offset, _⟩, -, h⟩ := exists_of_bind_eq_ok h
  obtain ⟨hhour, hminute, hsecond, hnanos⟩ := readClock_range hclock
  simp only at h
  split at h
  · cases h
  · exact isValid_of_moveToUtc hhour hminute hsecond hnanos h

end Stamp

end FlowWatch
