import Mathlib
import FlowWatch.Json.Number
import FlowWatch.Time.Printer
import FlowWatch.Time.Reader

/-!
# Numerals that are read back

Numbers of JSON texts and the parts of time stamps are written with decimal digits, the latter with
zeros in front.  Both readers compute the value of the digits (`Nat.ofDigitChars`) as long as it does
not lead beyond their limits, which it does not on the way if it does not at the end
(`le_ofDigitChars`).  So a number that is written is read back, whatever comes after it that is no
digit.
-/

namespace FlowWatch

/-- The value of digits is that of the first one with the others after it. -/
lemma ofDigitChars_cons_mul (c : Char) (cs : List Char) (init : Nat) :
    Nat.ofDigitChars 10 (c :: cs) init =
      Nat.ofDigitChars 10 cs (init * 10 + (c.toNat - '0'.toNat)) := by
  rw [Nat.ofDigitChars_cons, Nat.mul_comm]

/-- Further digits do not make a number smaller. -/
lemma le_ofDigitChars (cs : List Char) (init : Nat) : init ≤ Nat.ofDigitChars 10 cs init := by
  induction cs generalizing init with
  | nil => rw [Nat.ofDigitChars_nil]
  | cons c cs ih =>
    rw [Nat.ofDigitChars_cons]
    exact le_trans (by omega) (ih _)

/-- A positive number is not written with a zero in front. -/
lemma head?_toDigits_ne {n : Nat} (h : 0 < n) : (Nat.toDigits 10 n).head? ≠ some '0' := by
  induction n using Nat.strong_induction_on with
  | h n ih =>
    by_cases hn : n < 10
    · have hdigit : ∀ m < 10, 0 < m → [m.digitChar].head? ≠ some '0' := by decide
      rw [Nat.toDigits_of_lt_base hn]
      exact hdigit n hn h
    · have hne : Nat.toDigits 10 (n / 10) ≠ [] := Nat.toDigits_ne_nil
      rw [Nat.toDigits_of_base_le (by decide) (by omega), List.head?_append_of_ne_nil _ hne]
      exact ih (n / 10) (by omega) (by omega)

/-! ## Numbers of JSON texts -/

namespace JsonNumber

/-- The digits of a number are taken if the number fits. -/
lemma takeDigits_eq {significand : Nat} (taken : Nat) {cs : List Char}
    (h : Nat.ofDigitChars 10 cs significand ≤ maxNatural) :
    takeDigits significand taken cs =
      (Nat.ofDigitChars 10 cs significand, taken + cs.length) := by
  induction cs generalizing significand taken with
  | nil => simp [takeDigits]
  | cons c cs ih =>
    rw [ofDigitChars_cons_mul] at h ⊢
    rw [takeDigits, digitValue, if_pos ((le_ofDigitChars cs _).trans h), ih _ h, List.length_cons,
      Nat.add_assoc, Nat.add_comm 1]

/-- What may come after a value: nothing, or what goes on with the array or object around it. -/
def Closed : List Char → Prop
  | [] => True
  | c :: _ => c = ',' ∨ c = ']' ∨ c = '\x7d'

/-- The digits before such a text are cut off. -/
lemma takeWhile_digits {n : Nat} {rest : List Char} (h : Closed rest) :
    (Nat.toDigits 10 n ++ rest).takeWhile isDigit = Nat.toDigits 10 n ∧
      (Nat.toDigits 10 n ++ rest).dropWhile isDigit = rest := by
  have hdigits : ∀ c ∈ Nat.toDigits 10 n, isDigit c = true := fun c hc =>
    Nat.isDigit_of_mem_toDigits (by decide) (by decide) hc
  rw [List.takeWhile_append_of_pos hdigits, List.dropWhile_append_of_pos hdigits]
  cases rest with
  | nil => simp
  | cons c rest => obtain rfl | rfl | rfl := h <;> simp [isDigit]

/-- The whole number of digits that are those of a number which fits. -/
lemma ofParts_toDigits {n : Nat} (h : n ≤ maxNatural) :
    ofParts ⟨false, Nat.toDigits 10 n, none, none⟩ = some (.natural n) := by
  have hvalue : Nat.ofDigitChars 10 (Nat.toDigits 10 n) 0 = n := Nat.ofDigitChars_ten_toDigits
  have htaken := takeDigits_eq 0 (hvalue.trans_le h)
  rw [hvalue, Nat.zero_add] at htaken
  simp [ofParts, htaken]

lemma toList_write_natural (n : Nat) : (natural n).write.toList = Nat.toDigits 10 n := by
  rw [write, Nat.toString_eq_ofList_toDigits, String.toList_ofList]

/-- A number begins with a digit. -/
lemma exists_write_eq_cons (n : Nat) :
    ∃ c cs, (natural n).write.toList = c :: cs ∧ isDigit c = true := by
  rw [toList_write_natural]
  cases hdigits : Nat.toDigits 10 n with
  | nil => exact absurd hdigits Nat.toDigits_ne_nil
  | cons c cs =>
    exact ⟨c, cs, rfl,
      Nat.isDigit_of_mem_toDigits (by decide) (by decide) (hdigits ▸ List.mem_cons_self)⟩

/-- A number that fits is read back. -/
lemma read_natural {n : Nat} (h : n ≤ maxNatural) {rest : List Char} (hrest : Closed rest) :
    read ((natural n).write.toList ++ rest) = some (.natural n, rest) := by
  obtain ⟨hwhole, hafter⟩ := takeWhile_digits (n := n) hrest
  have hfraction : readFraction rest = some (none, rest) := by
    cases rest with
    | nil => rfl
    | cons c rest => obtain rfl | rfl | rfl := hrest <;> rfl
  have hexponent : readExponent rest = some (none, rest) := by
    cases rest with
    | nil => rfl
    | cons c rest => obtain rfl | rfl | rfl := hrest <;> rfl
  have hunsigned : readUnsigned false (Nat.toDigits 10 n ++ rest) = some (.natural n, rest) := by
    have hleading : (Nat.toDigits 10 n).head? = some '0' → ¬ 1 < (Nat.toDigits 10 n).length := by
      intro hhead
      obtain rfl | hpos := n.eq_zero_or_pos
      · decide
      · exact absurd hhead (head?_toDigits_ne hpos)
    rw [readUnsigned, hwhole, hafter, hfraction]
    simpa [hexponent, ofParts_toDigits h] using hleading
  obtain ⟨c, cs, hwrite, hdigit⟩ := exists_write_eq_cons n
  have hsign : ∀ more, c :: (cs ++ rest) = '-' :: more → False := by
    rintro more ⟨⟩
    exact absurd hdigit (by decide)
  rw [← toList_write_natural, hwrite, List.cons_append] at hunsigned
  rw [hwrite, List.cons_append, read.eq_2 _ hsign, hunsigned]

end JsonNumber

/-! ## Numbers of time stamps -/

namespace Stamp

variable {n width : Nat}

/-- A number with zeros in front consists of digits. -/
lemma isDigit_of_mem_padded {c : Char} (h : c ∈ padded n width) : isDigit c = true := by
  rw [padded, List.mem_append] at h
  rcases h with hzero | hdigit
  · rw [List.eq_of_mem_replicate hzero]
    rfl
  · exact Nat.isDigit_of_mem_toDigits (by decide) (by decide) hdigit

/-- The value of a number with zeros in front. -/
lemma ofDigitChars_padded (n width : Nat) : Nat.ofDigitChars 10 (padded n width) 0 = n := by
  rw [padded, Nat.ofDigitChars_append, Nat.ofDigitChars_replicate_zero, Nat.mul_zero,
    Nat.ofDigitChars_ten_toDigits]

/-- A number that does not take more digits is as long as it is meant to be. -/
lemma length_padded (hwidth : 0 < width) (h : n < 10 ^ width) : (padded n width).length = width := by
  have hlength := (Nat.length_toDigits_le_iff (by decide) hwidth).mpr h
  rw [padded, List.length_append, List.length_replicate]
  omega

/-- A number begins with a digit. -/
lemma exists_padded_eq_cons (n width : Nat) :
    ∃ c cs, padded n width = c :: cs ∧ isDigit c = true := by
  cases hdigits : padded n width with
  | nil => exact absurd (List.append_eq_nil_iff.mp hdigits).2 Nat.toDigits_ne_nil
  | cons c cs => exact ⟨c, cs, rfl, isDigit_of_mem_padded (hdigits ▸ List.mem_cons_self)⟩

/-- The text does not begin with a digit. -/
def NoDigit (rest : List Char) : Prop := ∀ c ∈ rest.head?, isDigit c = false

lemma noDigit_cons {c : Char} (h : isDigit c = false) (rest : List Char) : NoDigit (c :: rest) := by
  rintro d ⟨⟩
  exact h

/-- Digits are read up to what is no digit. -/
lemma readDigits_append {cs rest : List Char} {limit : Option Nat}
    (hdigits : ∀ c ∈ cs, isDigit c = true) (hlimit : ∀ k ∈ limit, cs.length ≤ k)
    (hrest : NoDigit rest) (hn : Nat.ofDigitChars 10 cs n ≤ maxNumber) :
    readDigits n limit (cs ++ rest) = .ok (Nat.ofDigitChars 10 cs n, rest) := by
  induction cs generalizing n limit with
  | nil =>
    rw [List.nil_append, Nat.ofDigitChars_nil]
    by_cases hdone : limit = some 0
    · rw [hdone, readDigits.eq_1]
    · cases rest with
      | nil => rw [readDigits.eq_2 _ _ hdone]
      | cons c rest =>
        have hother : isDigit c = false := hrest c rfl
        rw [readDigits.eq_3 _ _ _ _ hdone, hother, if_neg Bool.false_ne_true]
  | cons c cs ih =>
    obtain ⟨hdigit, hdigits⟩ := List.forall_mem_cons.mp hdigits
    have hmore : limit ≠ some 0 := by
      rintro rfl
      exact absurd (hlimit 0 rfl) (by simp)
    have hlimit' : ∀ k ∈ limit.map (· - 1), cs.length ≤ k := by
      simp only [Option.mem_map]
      rintro _ ⟨k, hk, rfl⟩
      exact Nat.le_sub_one_of_lt (hlimit k hk)
    rw [ofDigitChars_cons_mul] at hn ⊢
    rw [List.cons_append, readDigits.eq_3 _ _ _ _ hmore, if_pos hdigit]
    simp only [Nat.not_lt.mpr ((le_ofDigitChars cs _).trans hn), if_false]
    exact ih hdigits hlimit' hn

/-- A number with zeros in front is read back. -/
lemma readNumber_padded {rest : List Char} {limit : Option Nat} (hn : n ≤ maxNumber)
    (hlimit : ∀ k ∈ limit, (padded n width).length ≤ k)
    (hrest : NoDigit rest) :
    readNumber limit (padded n width ++ rest) = .ok (n, rest) := by
  have hvalue := ofDigitChars_padded n width
  have hread := readDigits_append (n := 0) (fun c hc => isDigit_of_mem_padded hc) hlimit hrest
    (hvalue.trans_le hn)
  rw [hvalue] at hread
  obtain ⟨c, cs, hdigits, hdigit⟩ := exists_padded_eq_cons n width
  rw [hdigits, List.cons_append] at hread ⊢
  rw [readNumber, if_pos hdigit]
  exact hread

end Stamp

end FlowWatch
