/-!
# Sets of characters

A property of characters is written as the sorted list of its ranges, and looked up by bisection.
-/

namespace FlowWatch

/-- Disjoint ranges of code points in ascending order, both ends included. -/
abbrev CharRanges := Array (Nat × Nat)

namespace CharRanges

/-- Whether one of the ranges between the positions `lo` and `hi` holds the code point. -/
def search (t : CharRanges) (code lo hi : Nat) : Bool :=
  if _ : lo < hi then
    let mid := lo + (hi - lo) / 2
    match t[mid]? with
    | none => false
    | some (first, last) =>
      if code < first then t.search code lo mid
      else if last < code then t.search code (mid + 1) hi
      else true
  else false
termination_by hi - lo

/-- Whether one of the ranges holds the character. -/
def holds (t : CharRanges) (c : Char) : Bool := t.search c.toNat 0 t.size

theorem exists_of_search {t : CharRanges} {code lo hi : Nat} (h : t.search code lo hi = true) :
    ∃ range ∈ t.toList, range.1 ≤ code ∧ code ≤ range.2 := by
  fun_induction search t code lo hi with
  | case1 => cases h
  | case2 lo hi hlt mid first last hmid hbelow ih => exact ih h
  | case3 lo hi hlt mid first last hmid hbelow habove ih => exact ih h
  | case4 lo hi hlt mid first last hmid hbelow habove =>
    refine ⟨(first, last), Array.mem_toList_iff.mpr (Array.mem_of_getElem? hmid), ?_, ?_⟩
    · exact Nat.le_of_not_lt hbelow
    · exact Nat.le_of_not_lt habove
  | case5 => cases h

/-- A character that is in none of the ranges is not found. -/
theorem holds_eq_false {t : CharRanges} {c : Char}
    (h : ∀ range ∈ t.toList, c.toNat < range.1 ∨ range.2 < c.toNat) : t.holds c = false := by
  rw [Bool.eq_false_iff]
  intro hholds
  obtain ⟨range, hrange, hfirst, hlast⟩ := exists_of_search hholds
  have hout := h range hrange
  omega

end CharRanges

end FlowWatch
