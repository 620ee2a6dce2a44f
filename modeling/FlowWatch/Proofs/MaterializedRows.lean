import Mathlib
import FlowWatch.Proofs.WindowShape

/-!
# How many rows are materialized

A window has to hold what the viewport shows, and no more than a bounded number of rows beyond it,
however long the table is.  Both bounds are about the same rounding.

* Uniform rows are counted from the start of the window, so the upper bound is read off.  What may
  be lost is a row at the far side, where moving the start up to an even row takes back one of the
  rows kept there; a row that lies in the viewport as a whole is never that one.
* Measured rows are searched for both edges.  As every row takes a line at least, no more rows begin
  between the edges than there are lines (`offsetOf_add_le`); the row that is cut by the top edge
  and the one that an even start adds make two more.
-/

namespace FlowWatch

namespace WindowCalculator

/-! ## Uniform rows -/

/-- The rows that cover a height are its quotient, rounded up. -/
lemma rowsCovering_eq_ceilDiv (height rowHeight : Nat) :
    rowsCovering height rowHeight = height ⌈/⌉ rowHeight :=
  (Nat.ceilDiv_eq_add_pred_div height rowHeight).symm

/-- A window of uniform rows holds those that cover the viewport and the ones kept on both sides. -/
lemma uniform_len_le (rule : WindowCalculator) (count : Nat) (v : Viewport) :
    (rule.uniform count v).len ≤ v.height ⌈/⌉ rule.rowHeight.lines + 2 * rule.overscan := by
  have hstop : (rule.uniform count v).stop ≤ (rule.uniform count v).start +
      rowsCovering v.height rule.rowHeight.lines + rule.overscan * 2 := min_le_right ..
  rw [rowsCovering_eq_ceilDiv] at hstop
  rw [Window.len]
  omega

/-- A uniform row that lies in the viewport as a whole is covered, once the top has been moved into
the content. -/
lemma uniform_contains_of_inside (rule : WindowCalculator) {count i : Nat} {v : Viewport}
    (hover : 1 ≤ rule.overscan) (hi : i < count) (hheight : 0 < v.height)
    (hbegin : rule.uniformTop count v ≤ i * rule.rowHeight.lines)
    (hend : (i + 1) * rule.rowHeight.lines ≤ rule.uniformTop count v + v.height) :
    (rule.uniform count v).contains i = true := by
  have hrow : i * rule.rowHeight.lines < (i + 1) * rule.rowHeight.lines :=
    Nat.mul_lt_mul_of_pos_right i.lt_succ_self rule.rowHeight.pos
  exact rule.uniform_contains_of_top hover hi (hbegin.trans_lt hrow)
    (lt_div_add_rowsCovering rule.rowHeight.pos hheight (.inr hend))

/-! ## Measured rows -/

/-- A window of measured rows holds one for each line of the viewport and two more at most. -/
lemma measuredAt_len_le {x : HeightIndex} {heights : List Nat} (hx : x.Indexes heights)
    (hpos : ∀ height ∈ heights, 0 < height) (top : Int) (height : Nat) :
    (measuredAt x top height).len ≤ height + 2 := by
  set first := (x.lowerBound top.toNat).getD (x.len - 1) with hfirst
  have hstart : (measuredAt x top height).start = alignToStripe first := rfl
  have halign := lt_alignToStripe_add first
  have hle := alignToStripe_le first
  suffices hstop : (measuredAt x top height).stop ≤ first + height + 1 by
    rw [Window.len, hstart]
    omega
  have hbottom : (Offset.saturate (top + height)).toNat ≤ top.toNat + height := by
    have hlow : Offset.lowest < 0 := by decide
    unfold Offset.saturate
    omega
  by_contra hlong
  simp only [measuredAt, ← hfirst] at hlong
  split at hlong
  · omega
  · -- the row `height` rows below the one after the first begins in the viewport
    have hrow := (Nat.not_le.mp hlong).trans_le (lowerBound_stop_le hx _)
    have hreach := offsetOf_le_of_lt_stop hx hrow (Nat.not_le.mp hlong)
    have hlines := hx.offsetOf_add_le hpos (show first + 1 ≤ first + height + 1 by omega) hrow.le
    cases hfound : x.lowerBound top.toNat with
    | none =>
      rw [hfound, Option.getD_none, hx.len_eq] at hfirst
      omega
    | some row =>
      obtain rfl : first = row := by rw [hfirst, hfound, Option.getD_some]
      have hend := (hx.lowerBound_eq_some_iff.mp hfound).2.2
      omega

/-! ## Both bounds -/

/-- **Bounded windows.**  A window of uniform rows with one kept beyond each edge at least holds
every row that lies in the viewport as a whole, after its top has been clamped into the content, and
has no more rows than cover the viewport and are kept on both sides, or than a machine word can
count.  A window of measured rows holds every row that meets the viewport, after it has been pulled
back to the content, and that begins at an offset which can be represented, as all rows do of
contents that fit; it has at most two rows more than the viewport has lines.  Neither number depends
on how many rows there are. -/
theorem materialized_rows_bounded (rule : WindowCalculator) (v : Viewport)
    (hheight : 0 < v.height) :
    (∀ count, 1 ≤ count → 1 ≤ rule.overscan →
      ((count * rule.rowHeight.lines : Nat) : Int) ≤ Offset.highest →
      let top := clampScrollTop v.top (count * rule.rowHeight.lines) v.height
      let w := rule.compute count v none
      (∀ i < count, top ≤ (i * rule.rowHeight.lines : Nat) →
        (((i + 1) * rule.rowHeight.lines : Nat) : Int) ≤ top + v.height →
          w.contains i = true) ∧
      w.len ≤ min (v.height ⌈/⌉ rule.rowHeight.lines + 2 * rule.overscan) (2 ^ 64 - 1)) ∧
    ∀ heights : List Nat, (∀ height ∈ heights, 0 < height) →
      let x := HeightIndex.ofHeights heights
      let top := measuredTop x v
      let w := rule.compute heights.length v (some x)
      (∀ i < heights.length, (((heights.take i).sum : Nat) : Int) ≤ Offset.highest →
        (((heights.take i).sum : Nat) : Int) < top + v.height →
        top < ((heights.take (i + 1)).sum : Nat) → w.contains i = true) ∧
      w.len ≤ v.height + 2 := by
  constructor
  · intro count hcount hover hfit top w
    have hw : w = rule.uniform count v := rule.compute_none hcount hheight
    have htop : (rule.uniformTop count v : Int) = top :=
      Int.toNat_of_nonneg (clampScrollTop_nonneg ..)
    rw [hw]
    refine ⟨fun i hi hbegin hend => ?_, le_min (rule.uniform_len_le count v) ?_⟩
    · exact rule.uniform_contains_of_inside hover hi hheight (by omega) (by omega)
    · have hstop : (rule.uniform count v).stop ≤ count := min_le_left ..
      have hrows := Nat.le_mul_of_pos_right count rule.rowHeight.pos
      rw [Window.len]
      unfold Offset.highest at hfit
      omega
  · intro heights hpos x top w
    have hx : x.Indexes heights := HeightIndex.indexes_ofHeights heights
    rcases Nat.eq_zero_or_pos heights.length with hempty | hrows
    · have hw : w = .empty := if_pos hempty
      rw [hw, hempty]
      exact ⟨fun i hi => absurd hi i.not_lt_zero, Nat.zero_le _⟩
    · have hw : w = measured x v := rule.compute_some hx hrows hheight
      rw [hw]
      refine ⟨fun i hi hfit hreach hend => ?_, measuredAt_len_le hx hpos top v.height⟩
      rw [← hx.offsetOf_eq hi.le] at hfit hreach
      rw [← hx.offsetOf_eq hi] at hend
      have hrow : 0 < heights[i] := hpos _ (List.getElem_mem hi)
      have hsucc := hx.offsetOf_succ hi
      exact measured_contains_of_top hx hi (by omega) hfit hend hreach.le

/-- Ten rows of two lines, and six measured ones of which the last is higher than the others, below
a top on the second line.  Both windows have as many rows as they may. -/
theorem materialized_rows_bounded_exactly :
    let rule : WindowCalculator := ⟨⟨2, by decide⟩, 1⟩
    let v : Viewport := ⟨1, 3⟩
    let x := HeightIndex.ofHeights [1, 1, 1, 1, 1, 9]
    (0 < v.height ∧ 1 ≤ 10 ∧ 1 ≤ rule.overscan ∧ ((10 * 2 : Nat) : Int) ≤ Offset.highest ∧
      ∀ height ∈ [1, 1, 1, 1, 1, 9], 0 < height) ∧
    ((rule.compute 10 v none).contains 1 = true ∧
      (rule.compute 10 v none).len = 3 ⌈/⌉ 2 + 2 * 1) ∧
    ((rule.compute 6 v (some x)).contains 3 = true ∧ (rule.compute 6 v (some x)).len = 3 + 2) := by
  intro rule v x
  have hpos : ∀ height ∈ [1, 1, 1, 1, 1, 9], 0 < height := by decide
  obtain ⟨huniform, hmeasured⟩ := materialized_rows_bounded rule v (by decide)
  obtain ⟨hinside, hfew⟩ := huniform 10 (by decide) le_rfl (by decide)
  obtain ⟨hmeets, hlines⟩ := hmeasured [1, 1, 1, 1, 1, 9] hpos
  refine ⟨⟨by decide, by decide, le_rfl, by decide, hpos⟩, ⟨?_, ?_⟩, ?_, ?_⟩
  · exact hinside 1 (by decide) (by decide) (by decide)
  · exact (hfew.trans (min_le_left ..)).antisymm (by decide)
  · exact hmeets 3 (by decide) (by decide) (by decide +kernel) (by decide +kernel)
  · exact hlines.antisymm (by decide +kernel)

end WindowCalculator

end FlowWatch
