import Mathlib
import FlowWatch.Proofs.WindowCoverage
import FlowWatch.Table.Selection

/-!
# Selected rows are shown

The scroll that shows a row is the least one that does (`scroll_to_row_is_least`).  Bottom edges are
cut off at the highest offset, but a row that fits below it is compared with them as if they were
not (`scrollAdjustmentForRow_of_fits`), so that what is left are distances to an interval: the
offsets that show the row as a whole, from the one that aligns its end to the one that aligns its
beginning.

The scroll counts offsets with the header, and the window is found by offsets without it.  The two
agree because a header lower than the viewport leaves room for the row: after the scroll the row
ends below the top, and it begins at or above the top or ends at or above the bottom edge
(`scrollAdjustmentForRow_shows`).  This is what either way of finding a window needs to cover the
row, also after it has moved the top into the content.
-/

namespace FlowWatch

/-! ## The least scroll -/

namespace Offset

/-- A representable number is compared with a saturated one as with the number itself. -/
lemma saturate_lt_iff {x y : Int} (hlo : lowest < y) (hhi : y ≤ highest) :
    saturate x < y ↔ x < y := by
  unfold saturate
  omega

end Offset

/-- The row is shown as a whole below the header. -/
def Viewport.ShowsRow (v : Viewport) (headerHeight rowTop rowHeight : Nat) : Prop :=
  v.top ≤ rowTop ∧ ((rowTop + headerHeight + rowHeight : Nat) : Int) ≤ v.top + v.height

section LeastScroll

variable {rowTop rowHeight headerHeight : Nat}

/-- The scroll that shows a row which fits the offsets, without the edges that are cut off. -/
lemma scrollAdjustmentForRow_of_fits (v : Viewport)
    (hfit : ((rowTop + headerHeight + rowHeight : Nat) : Int) ≤ Offset.highest) :
    scrollAdjustmentForRow rowTop rowHeight headerHeight v =
      if (rowTop : Int) < v.top then some (rowTop : Int)
      else if v.top + v.height < (rowTop + headerHeight + rowHeight : Nat) then
        some ((rowTop + headerHeight + rowHeight : Nat) - v.height)
      else none := by
  have hlow : Offset.lowest < 0 := by decide
  have hrow : Offset.ofHeight rowTop = rowTop := Offset.ofHeight_eq (by omega)
  have hinner : Offset.saturate ((rowTop : Int) + headerHeight) = rowTop + headerHeight :=
    Offset.saturate_eq_self (by omega) (by omega)
  have houter : Offset.saturate ((rowTop : Int) + headerHeight + rowHeight) =
      (rowTop + headerHeight + rowHeight : Nat) := Offset.saturate_eq_self (by omega) (by omega)
  simp only [scrollAdjustmentForRow, hrow, hinner, houter, Viewport.bottom, gt_iff_lt,
    Offset.saturate_lt_iff (show Offset.lowest < (rowTop + headerHeight + rowHeight : Nat) by omega)
      hfit]

/-- Where the scroll that shows a row leads: a row that begins above the top is aligned to the top,
one that ends below the bottom edge to the bottom edge, and one that is shown as a whole stays where
it is. -/
lemma scrolledTop_cases (v : Viewport)
    (hfit : ((rowTop + headerHeight + rowHeight : Nat) : Int) ≤ Offset.highest) {top : Int}
    (htop : top = (scrollAdjustmentForRow rowTop rowHeight headerHeight v).getD v.top) :
    ((rowTop : Int) < v.top ∧ top = rowTop) ∨
    (v.top ≤ rowTop ∧ v.top + v.height < (rowTop + headerHeight + rowHeight : Nat) ∧
      top = (rowTop + headerHeight + rowHeight : Nat) - v.height) ∨
    (v.ShowsRow headerHeight rowTop rowHeight ∧ top = v.top) := by
  rw [scrollAdjustmentForRow_of_fits v hfit] at htop
  split at htop
  · rename_i habove
    exact .inl ⟨habove, htop⟩
  · rename_i hnot
    split at htop
    · rename_i hbelow
      exact .inr (.inl ⟨Int.not_lt.mp hnot, hbelow, htop⟩)
    · rename_i hshown
      exact .inr (.inr ⟨⟨Int.not_lt.mp hnot, Int.not_lt.mp hshown⟩, htop⟩)

/-- No scroll is needed exactly if the row is shown as a whole already. -/
lemma scrollAdjustmentForRow_eq_none_iff (v : Viewport)
    (hfit : ((rowTop + headerHeight + rowHeight : Nat) : Int) ≤ Offset.highest) :
    scrollAdjustmentForRow rowTop rowHeight headerHeight v = none ↔
      v.ShowsRow headerHeight rowTop rowHeight := by
  constructor
  · intro hnone
    have hstays : v.top =
        (scrollAdjustmentForRow rowTop rowHeight headerHeight v).getD v.top := by
      rw [hnone, Option.getD_none]
    rcases scrolledTop_cases v hfit hstays with ⟨habove, htop⟩ | ⟨-, hbelow, htop⟩ | ⟨hshown, -⟩
    · omega
    · omega
    · exact hshown
  · rintro ⟨hbegin, hend⟩
    rw [scrollAdjustmentForRow_of_fits v hfit, if_neg (Int.not_lt.mpr hbegin),
      if_neg (Int.not_lt.mpr hend)]

/-- **Minimal motion.**  Let a row and the header fit the viewport together.  After the scroll that
shows the row, or without one if none is needed, the row is shown as a whole below the header, and
no other offset that shows it so is nearer to where the viewport was.  A scroll is needed exactly if
the row is not shown as a whole, and so not once more.  Rows of one height are scrolled to alike. -/
theorem scroll_to_row_is_least (rowTop rowHeight headerHeight : Nat) (v : Viewport)
    (hroom : rowHeight + headerHeight ≤ v.height)
    (hfit : ((rowTop + headerHeight + rowHeight : Nat) : Int) ≤ Offset.highest) :
    let adjustment := scrollAdjustmentForRow rowTop rowHeight headerHeight v
    let top := adjustment.getD v.top
    (v.withTop top).ShowsRow headerHeight rowTop rowHeight ∧
    (∀ other, (v.withTop other).ShowsRow headerHeight rowTop rowHeight →
      |top - v.top| ≤ |other - v.top|) ∧
    (adjustment = none ↔ v.ShowsRow headerHeight rowTop rowHeight) ∧
    scrollAdjustmentForRow rowTop rowHeight headerHeight (v.withTop top) = none ∧
    ∀ (index : Nat) (height : RowHeight), index * height.lines = rowTop →
      height.lines = rowHeight → scrollAdjustment index height headerHeight v = adjustment := by
  intro adjustment top
  have hcases := scrolledTop_cases v hfit (show top = _ from rfl)
  have hshown : (v.withTop top).ShowsRow headerHeight rowTop rowHeight := by
    rcases hcases with ⟨-, htop⟩ | ⟨-, -, htop⟩ | ⟨hshown, htop⟩
    · rw [htop]
      exact ⟨le_rfl, by rw [Viewport.withTop_top, Viewport.withTop_height]; omega⟩
    · rw [htop]
      exact ⟨by rw [Viewport.withTop_top]; omega, (Int.sub_add_cancel ..).ge⟩
    · rwa [htop]
  refine ⟨hshown, ?_, scrollAdjustmentForRow_eq_none_iff v hfit,
    (scrollAdjustmentForRow_eq_none_iff (v.withTop top) hfit).mpr hshown, ?_⟩
  · rintro other ⟨hbegin, hend⟩
    rw [Viewport.withTop_top] at hbegin hend
    rw [Viewport.withTop_height] at hend
    rcases hcases with ⟨habove, htop⟩ | ⟨-, hbelow, htop⟩ | ⟨-, htop⟩
    · -- every offset that shows the row is at or above the beginning of the row
      rw [htop, abs_of_neg (by omega)]
      exact le_trans (by omega) (neg_le_abs (other - v.top))
    · -- every offset that shows the row is at or below the one that aligns its end
      rw [htop, abs_of_pos (by omega)]
      exact le_trans (by omega) (le_abs_self (other - v.top))
    · rw [htop, sub_self, abs_zero]
      exact abs_nonneg _
  · rintro index height rfl rfl
    rfl

/-- A row of three lines that begins nine lines down, under a header of two lines and in a viewport
of six.  From the top of the content it takes a scroll by eight lines, and from twenty lines down
one back to nine. -/
theorem scroll_to_row_is_least_either_way :
    (3 + 2 ≤ 6 ∧ ((9 + 2 + 3 : Nat) : Int) ≤ Offset.highest) ∧
    (scrollAdjustmentForRow 9 3 2 ⟨0, 6⟩ = some 8 ∧
      ∀ other, (⟨other, 6⟩ : Viewport).ShowsRow 2 9 3 → |8 - 0| ≤ |other - 0|) ∧
    scrollAdjustmentForRow 9 3 2 ⟨20, 6⟩ = some 9 ∧
      ∀ other, (⟨other, 6⟩ : Viewport).ShowsRow 2 9 3 → |9 - 20| ≤ |other - 20| := by
  have hbelow : scrollAdjustmentForRow 9 3 2 ⟨0, 6⟩ = some 8 := by decide
  have habove : scrollAdjustmentForRow 9 3 2 ⟨20, 6⟩ = some 9 := by decide
  obtain ⟨-, hup, -⟩ := scroll_to_row_is_least 9 3 2 ⟨0, 6⟩ (by decide) (by decide)
  obtain ⟨-, hdown, -⟩ := scroll_to_row_is_least 9 3 2 ⟨20, 6⟩ (by decide) (by decide)
  rw [hbelow] at hup
  rw [habove] at hdown
  exact ⟨by decide, ⟨hbelow, hup⟩, habove, hdown⟩

end LeastScroll

/-! ## Windows hold the row -/

/-- After the scroll that shows a row, or without one if none is needed, the row ends below the top
and does not lie below the bottom edge.  A row taller than the viewport may begin above the top or
end below the bottom edge, but not both. -/
lemma scrollAdjustmentForRow_shows (rowTop rowHeight headerHeight : Nat) (v : Viewport) {top : Int}
    (hpos : 0 < rowHeight) (hheader : headerHeight < v.height)
    (hfit : ((headerHeight + (rowTop + rowHeight) : Nat) : Int) ≤ Offset.highest)
    (htop : top = (scrollAdjustmentForRow rowTop rowHeight headerHeight v).getD v.top) :
    top < (rowTop + rowHeight : Nat) ∧
      ((rowTop : Int) ≤ top ∨ ((rowTop + rowHeight : Nat) : Int) ≤ top + v.height) := by
  rcases scrolledTop_cases v (by omega) htop with ⟨-, htop⟩ | ⟨-, -, htop⟩ |
    ⟨⟨hbegin, hend⟩, htop⟩ <;> omega

namespace WindowCalculator

/-- After the scroll that shows it, a uniform row is covered. -/
lemma uniform_contains_of_shown (rule : WindowCalculator) {count i : Nat} {v : Viewport}
    (hover : 1 ≤ rule.overscan) (hi : i < count) (hheight : 0 < v.height)
    (hfit : ((count * rule.rowHeight.lines : Nat) : Int) ≤ Offset.highest)
    (htop : v.top < ((i + 1) * rule.rowHeight.lines : Nat))
    (hstop : ((i * rule.rowHeight.lines : Nat) : Int) ≤ v.top ∨
      (((i + 1) * rule.rowHeight.lines : Nat) : Int) ≤ v.top + v.height) :
    (rule.uniform count v).contains i = true := by
  have hpos := rule.rowHeight.pos
  have hend : (i + 1) * rule.rowHeight.lines ≤ count * rule.rowHeight.lines :=
    Nat.mul_le_mul_right _ hi
  have hrow : 0 < (i + 1) * rule.rowHeight.lines := Nat.mul_pos i.succ_pos hpos
  have hsearched := rule.uniformTop_eq count v (by omega)
  apply rule.uniform_contains_of_top hover hi
  · omega
  · apply lt_div_add_rowsCovering hpos hheight
    -- the top was clamped from below, or the last row reaches the bottom edge
    rcases le_total v.top (count * rule.rowHeight.lines - v.height : Nat) with hle | hle
    · rcases hstop with hbegin | hreach
      · exact Or.inl (by omega)
      · exact Or.inr (by omega)
    · exact Or.inr (by omega)

end WindowCalculator

/-- **Selection visibility.**  The scroll that shows a selected row leads to a window that holds the
row, for uniform and for measured rows, wherever the viewport was before. -/
theorem selected_row_in_window (rule : WindowCalculator) (count i headerHeight : Nat) (v : Viewport)
    (hi : i < count) (hheader : headerHeight < v.height) (hover : 1 ≤ rule.overscan) :
    (((headerHeight + count * rule.rowHeight.lines : Nat) : Int) ≤ Offset.highest →
      (rule.compute count
        (v.withTop ((scrollAdjustment i rule.rowHeight headerHeight v).getD v.top))
        none).contains i = true) ∧
    ∀ heights : List Nat, heights.length = count → (∀ height ∈ heights, 0 < height) →
      ((headerHeight + heights.sum : Nat) : Int) ≤ Offset.highest →
      let x := HeightIndex.ofHeights heights
      (rule.compute count
        (v.withTop ((scrollAdjustmentForRow (x.offsetOf i) (x.height i) headerHeight v).getD v.top))
        (some x)).contains i = true := by
  constructor
  · intro hfit
    set shown := v.withTop ((scrollAdjustment i rule.rowHeight headerHeight v).getD v.top) with hv
    have hheight : 0 < shown.height := Nat.zero_lt_of_lt hheader
    have hsucc : (i + 1) * rule.rowHeight.lines = i * rule.rowHeight.lines + rule.rowHeight.lines :=
      Nat.succ_mul ..
    have hend : (i + 1) * rule.rowHeight.lines ≤ count * rule.rowHeight.lines :=
      Nat.mul_le_mul_right _ hi
    obtain ⟨htop, hstop⟩ := scrollAdjustmentForRow_shows (i * rule.rowHeight.lines)
      rule.rowHeight.lines headerHeight v rule.rowHeight.pos hheader (by omega) rfl
    rw [rule.compute_none (Nat.zero_lt_of_lt hi) hheight]
    refine rule.uniform_contains_of_shown hover hi hheight (by omega) ?_ ?_
    · rw [hsucc]
      exact htop
    · rw [hsucc]
      exact hstop
  · rintro heights rfl hpositive hfit x
    have hx : x.Indexes heights := HeightIndex.indexes_ofHeights heights
    rw [hx.height_eq hi]
    set shown := v.withTop
      ((scrollAdjustmentForRow (x.offsetOf i) heights[i] headerHeight v).getD v.top) with hv
    have hheight : 0 < shown.height := Nat.zero_lt_of_lt hheader
    have hrow : 0 < heights[i] := hpositive _ (List.getElem_mem hi)
    have hsucc : x.offsetOf (i + 1) = x.offsetOf i + heights[i] := hx.offsetOf_succ hi
    have hend : x.offsetOf (i + 1) ≤ x.total := hx.offsetOf_le_total hi
    rw [← hx.total_eq] at hfit
    obtain ⟨htop, hstop⟩ := scrollAdjustmentForRow_shows (x.offsetOf i) heights[i] headerHeight v
      hrow hheader (by omega) rfl
    rw [rule.compute_some hx (Nat.zero_lt_of_lt hi) hheight]
    refine WindowCalculator.measured_contains_of_meets hx hi (by omega) (by omega) ?_ ?_
    · rw [hsucc]
      exact htop
    · change (x.offsetOf i : Int) ≤
        (scrollAdjustmentForRow (x.offsetOf i) heights[i] headerHeight v).getD v.top + v.height
      omega

/-- Rows more than twice as tall as the viewport, selected from above the content. -/
theorem selected_tall_row_in_window :
    (4 < 6 ∧ 2 < 3 ∧ 1 ≤ 1 ∧ ((2 + 6 * 7 : Nat) : Int) ≤ Offset.highest ∧
      ((2 + [7, 9, 1, 8, 7, 9].sum : Nat) : Int) ≤ Offset.highest) ∧
    ((⟨⟨7, by decide⟩, 1⟩ : WindowCalculator).compute 6
      ((⟨-5, 3⟩ : Viewport).withTop
        ((scrollAdjustment 4 ⟨7, by decide⟩ 2 ⟨-5, 3⟩).getD (-5))) none).contains 4 = true ∧
    (let x := HeightIndex.ofHeights [7, 9, 1, 8, 7, 9];
      ((⟨⟨7, by decide⟩, 1⟩ : WindowCalculator).compute 6
        ((⟨-5, 3⟩ : Viewport).withTop
          ((scrollAdjustmentForRow (x.offsetOf 4) (x.height 4) 2 ⟨-5, 3⟩).getD (-5)))
        (some x)).contains 4 = true) := by
  have h := selected_row_in_window ⟨⟨7, by decide⟩, 1⟩ 6 4 2 ⟨-5, 3⟩ (by decide) (by decide)
    (by decide)
  exact ⟨by decide, h.1 (by decide), h.2 [7, 9, 1, 8, 7, 9] rfl (by decide) (by decide)⟩

end FlowWatch
