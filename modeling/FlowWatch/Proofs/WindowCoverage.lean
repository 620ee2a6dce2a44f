import Mathlib
import FlowWatch.Proofs.HeightSums
import FlowWatch.Table.Window

/-!
# Which rows a window covers

Sufficient conditions for a row to lie in the window found for a viewport, in terms of the offsets
at which the row begins and ends.

Both ways of finding a window first move the top into the content: `uniformTop` by clamping it,
`measuredTop` by pulling it back once.  A row is covered as soon as it ends below the moved top and
begins, or for uniform rows ends, high enough above the bottom edge
(`uniform_contains_of_top`, `measured_contains_of_top`).  What remains for a caller is to bound the
moved top, and that only needs the content to fit an offset.
-/

namespace FlowWatch

namespace Offset

/-- A representable lower bound survives saturation. -/
lemma le_saturate {x y : Int} (hyx : y ≤ x) (hy : y ≤ highest) : y ≤ saturate x := by
  unfold saturate
  omega

/-- A lower bound above the lowest offset was there before saturation. -/
lemma le_of_le_saturate {x y : Int} (hy : lowest < y) (h : y ≤ saturate x) : y ≤ x := by
  unfold saturate at h
  omega

end Offset

namespace WindowCalculator

/-! ## Uniform rows -/

/-- One more row is needed than `k` exactly if `k` rows fall short of the height. -/
lemma lt_rowsCovering_iff {height rowHeight k : Nat} (hpos : 0 < rowHeight) :
    k < rowsCovering height rowHeight ↔ k * rowHeight < height := by
  rw [rowsCovering, ← Nat.succ_le_iff, Nat.le_div_iff_mul_le hpos, Nat.succ_mul]
  omega

/-- The offset at which uniform rows are searched. -/
def uniformTop (rule : WindowCalculator) (count : Nat) (v : Viewport) : Nat :=
  (clampScrollTop v.top (count * rule.rowHeight.lines) v.height).toNat

/-- The offset at which uniform rows are searched is the top, but neither negative nor past the
last offset at which the rows fill the viewport. -/
lemma uniformTop_eq (rule : WindowCalculator) (count : Nat) (v : Viewport)
    (hfit : ((count * rule.rowHeight.lines - v.height : Nat) : Int) ≤ Offset.highest) :
    (rule.uniformTop count v : Int) =
      max 0 (min v.top (count * rule.rowHeight.lines - v.height : Nat)) := by
  rw [uniformTop, Int.toNat_of_nonneg (clampScrollTop_nonneg ..), clampScrollTop, maxScrollTop,
    Offset.ofHeight_eq hfit]

/-- Of a top that is an offset, clamping leaves the part that the rows can be scrolled by. -/
lemma uniformTop_eq_min (rule : WindowCalculator) (count : Nat) {v : Viewport}
    (hnonneg : 0 ≤ v.top) (hhighest : v.top ≤ Offset.highest) :
    rule.uniformTop count v =
      min v.top.toNat (count * rule.rowHeight.lines - v.height) := by
  rw [uniformTop, clampScrollTop, maxScrollTop, Offset.ofHeight]
  omega

/-- The rows of a uniform window. -/
lemma uniform_contains_iff (rule : WindowCalculator) {count i : Nat} {v : Viewport} :
    (rule.uniform count v).contains i = true ↔
      alignToStripe (rule.uniformTop count v / rule.rowHeight.lines - rule.overscan) ≤ i ∧
        i < count ∧
        i < alignToStripe (rule.uniformTop count v / rule.rowHeight.lines - rule.overscan) +
          rowsCovering v.height rule.rowHeight.lines + rule.overscan * 2 := by
  rw [Window.contains_iff, uniform, uniformTop]
  simp only [lt_min_iff]

/-- A row that begins above the top, or ends above the bottom edge, is among the rows counted from
the first visible one. -/
lemma lt_div_add_rowsCovering {top height rowHeight i : Nat} (hpos : 0 < rowHeight)
    (hheight : 0 < height)
    (h : i * rowHeight ≤ top ∨ (i + 1) * rowHeight ≤ top + height) :
    i < top / rowHeight + rowsCovering height rowHeight := by
  have hone : 0 < rowsCovering height rowHeight := by
    rw [lt_rowsCovering_iff hpos, Nat.zero_mul]
    exact hheight
  rcases h with hbegin | hend
  · have hle : i ≤ top / rowHeight := (Nat.le_div_iff_mul_le hpos).mpr hbegin
    omega
  · by_contra hge
    obtain ⟨k, rfl⟩ := Nat.exists_eq_add_of_le (by omega : top / rowHeight ≤ i)
    have hshort : ¬ k * rowHeight < height := by
      rw [← lt_rowsCovering_iff hpos]
      omega
    have hrem : top < top / rowHeight * rowHeight + rowHeight := Nat.lt_div_mul_add hpos
    rw [Nat.add_mul, Nat.add_mul, Nat.one_mul] at hend
    omega

/-- With a row kept beyond each edge, a row that ends below the searched top is covered if it is
among the rows counted from the first visible one.  Aligning the start to a stripe costs at most
the one row gained below. -/
lemma uniform_contains_of_top (rule : WindowCalculator) {count i : Nat} {v : Viewport}
    (hover : 1 ≤ rule.overscan) (hi : i < count)
    (htop : rule.uniformTop count v < (i + 1) * rule.rowHeight.lines)
    (hstop : i < rule.uniformTop count v / rule.rowHeight.lines +
      rowsCovering v.height rule.rowHeight.lines) :
    (rule.uniform count v).contains i = true := by
  rw [uniform_contains_iff]
  have hfirst : rule.uniformTop count v / rule.rowHeight.lines < i + 1 :=
    (Nat.div_lt_iff_lt_mul rule.rowHeight.pos).mpr htop
  have hle := alignToStripe_le
    (rule.uniformTop count v / rule.rowHeight.lines - rule.overscan)
  have hlt := lt_alignToStripe_add
    (rule.uniformTop count v / rule.rowHeight.lines - rule.overscan)
  refine ⟨by omega, hi, by omega⟩

/-! ## Measured rows -/

section Measured

variable {x : HeightIndex} {heights : List Nat}

/-- A row that ends below an offset is not above the row found for it. -/
lemma lowerBound_getD_le (hx : x.Indexes heights) {value i : Nat} (hi : i < heights.length)
    (h : value < x.offsetOf (i + 1)) :
    (x.lowerBound value).getD (x.len - 1) ≤ i := by
  cases hfound : x.lowerBound value with
  | none =>
    have htotal := hx.lowerBound_eq_none_iff.mp hfound
    have hend := hx.offsetOf_le_total hi
    exact absurd h (by simpa using hend.trans htotal)
  | some row =>
    obtain ⟨hrow, hbegin, -⟩ := hx.lowerBound_eq_some_iff.mp hfound
    by_contra hlt
    have hmono : x.offsetOf (i + 1) ≤ x.offsetOf row :=
      hx.offsetOf_mono (by simpa using hlt) hrow.le
    omega

/-- A row that begins at or above an offset is not below the rows stopped at it. -/
lemma lt_stop_of_offsetOf_le (hx : x.Indexes heights) {value i : Nat} (hi : i < heights.length)
    (h : x.offsetOf i ≤ value) :
    i < match x.lowerBound value with
      | some row => row + 1
      | none => x.len := by
  cases hfound : x.lowerBound value with
  | none => simpa [hx.len_eq] using hi
  | some row =>
    obtain ⟨hrow, -, hend⟩ := hx.lowerBound_eq_some_iff.mp hfound
    by_contra hge
    have hmono : x.offsetOf (row + 1) ≤ x.offsetOf i :=
      hx.offsetOf_mono (by simpa using hge) hi.le
    omega

/-- A row above the one stopped at begins at or above the offset that is searched. -/
lemma offsetOf_le_of_lt_stop (hx : x.Indexes heights) {value i : Nat} (hi : i < heights.length)
    (h : i < match x.lowerBound value with
      | some row => row + 1
      | none => x.len) : x.offsetOf i ≤ value := by
  cases hfound : x.lowerBound value with
  | none => exact (hx.offsetOf_le_total hi.le).trans (hx.lowerBound_eq_none_iff.mp hfound)
  | some row =>
    obtain ⟨hrow, hbegin, -⟩ := hx.lowerBound_eq_some_iff.mp hfound
    rw [hfound] at h
    exact (hx.offsetOf_mono (Nat.le_of_lt_succ h) hrow.le).trans hbegin

/-- A row that ends below the searched top and begins at or above the bottom edge is covered. -/
lemma measured_contains_of_top (hx : x.Indexes heights) {v : Viewport} {i : Nat}
    (hi : i < heights.length) (hpos : 0 < x.offsetOf (i + 1))
    (hfit : (x.offsetOf i : Int) ≤ Offset.highest)
    (htop : measuredTop x v < x.offsetOf (i + 1))
    (hstop : (x.offsetOf i : Int) ≤ measuredTop x v + v.height) :
    (measured x v).contains i = true := by
  have hbottom := Offset.le_saturate hstop hfit
  rw [Window.contains_iff]
  simp only [measured, measuredAt]
  constructor
  · have htop' : (measuredTop x v).toNat < x.offsetOf (i + 1) :=
      (Int.toNat_lt' hpos).mpr htop
    exact (alignToStripe_le _).trans (lowerBound_getD_le hx hi htop')
  · rw [if_neg (by omega)]
    exact lt_stop_of_offsetOf_le hx hi (by omega)

/-- A covered row begins at an offset that can be represented. -/
lemma offsetOf_le_highest_of_contains (hx : x.Indexes heights) {v : Viewport} {i : Nat}
    (hi : i < heights.length) (h : (measured x v).contains i = true) :
    (x.offsetOf i : Int) ≤ Offset.highest := by
  have hbottom := Offset.saturate_le_highest (measuredTop x v + v.height)
  rw [Window.contains_iff] at h
  simp only [measured, measuredAt] at h
  obtain ⟨hstart, hstop⟩ := h
  split at hstop
  · omega
  · have hbegin := offsetOf_le_of_lt_stop hx hi hstop
    omega

/-- Pulling a viewport back never moves its top below a bound of it. -/
lemma measuredTop_lt {v : Viewport} {bound : Int} (hpos : 0 < bound) (htop : v.top < bound) :
    measuredTop x v < bound := by
  simp only [measuredTop]
  split
  · rename_i h
    have hover : Offset.ofHeight x.total + 1 ≤ v.top + v.height :=
      Offset.le_of_le_saturate (by
        have := Offset.ofHeight_nonneg x.total
        unfold Offset.lowest
        omega) h.2
    exact max_lt hpos (by omega)
  · exact htop

/-- Pulling a viewport back keeps in reach what was in reach of it. -/
lemma le_measuredTop_add {v : Viewport} {bound : Nat} (hfit : (bound : Int) ≤ Offset.highest)
    (hbound : bound ≤ x.total) (hreach : (bound : Int) ≤ v.top + v.height) :
    (bound : Int) ≤ measuredTop x v + v.height := by
  have htotal : (bound : Int) ≤ Offset.ofHeight x.total := by
    unfold Offset.ofHeight
    omega
  simp only [measuredTop]
  split <;> omega

/-- A row that ends below the top and begins at or above the bottom edge is covered, if it begins at
an offset that can be represented. -/
lemma measured_contains_of_meets (hx : x.Indexes heights) {v : Viewport} {i : Nat}
    (hi : i < heights.length) (hpos : 0 < x.offsetOf (i + 1))
    (hfit : (x.offsetOf i : Int) ≤ Offset.highest) (htop : v.top < x.offsetOf (i + 1))
    (hreach : (x.offsetOf i : Int) ≤ v.top + v.height) : (measured x v).contains i = true := by
  have hle : x.offsetOf i ≤ x.total := hx.offsetOf_le_total hi.le
  exact measured_contains_of_top hx hi hpos hfit (measuredTop_lt (by omega) htop)
    (le_measuredTop_add hfit hle hreach)

/-- A viewport whose bottom edge fits an offset is pulled back to where the rows fill it. -/
lemma measuredTop_le {v : Viewport} (hfit : (x.total : Int) ≤ Offset.highest)
    (hbottom : v.top ≤ 0 ∨ v.top + v.height ≤ Offset.highest) :
    measuredTop x v ≤ max 0 (x.total - v.height : Int) := by
  simp only [measuredTop, Offset.ofHeight_eq hfit, Viewport.bottom]
  split
  · exact le_rfl
  · rename_i h
    rcases hbottom with hneg | hbottom
    · exact hneg.trans (le_max_left ..)
    · by_cases hneg : v.top ≤ 0
      · exact hneg.trans (le_max_left ..)
      · have hlow : Offset.lowest ≤ v.top + v.height := by
          unfold Offset.lowest
          omega
        rw [Offset.saturate_eq_self hlow hbottom] at h
        omega

end Measured

/-! ## Choosing the way -/

/-- Without measured heights, a table with rows and a viewport with height take the uniform way. -/
lemma compute_none (rule : WindowCalculator) {count : Nat} {v : Viewport} (hcount : 0 < count)
    (hheight : 0 < v.height) : rule.compute count v none = rule.uniform count v := by
  simp [compute, matching, hcount.ne', hheight.ne']

/-- With an index of exactly these rows they take the measured way. -/
lemma compute_some (rule : WindowCalculator) {x : HeightIndex} {heights : List Nat}
    (hx : x.Indexes heights) {v : Viewport} (hcount : 0 < heights.length)
    (hheight : 0 < v.height) :
    rule.compute heights.length v (some x) = measured x v := by
  simp [compute, matching, hx.len_eq, hcount.ne', hheight.ne', Option.filter]

end WindowCalculator

end FlowWatch
