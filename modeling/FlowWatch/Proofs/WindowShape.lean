import Mathlib
import FlowWatch.Proofs.WindowCoverage

/-!
# How a window cuts a table

A window cuts the rows of a table in three: those above it, those in it and those below it.  Its
paddings stand for the first and the last part, so that scroll offsets stay what they were with all
rows in place (`Window.Cuts`).  This holds for every way of finding a window, whatever the viewport:
a top above the rows or past them, a viewport without height, an index of other rows, rows without
height.

The one thing to prove for each way is that the first row is not past the last one.  For measured
rows the two are found by separate searches, and are in order because the top is not below the
bottom edge and the search is monotone.
-/

namespace FlowWatch

/-- The window lies in a table with rows of these heights, and its paddings are the heights of the
rows above and below it. -/
structure Window.Cuts (w : Window) (heights : List Nat) : Prop where
  /-- The rows of the window are in order. -/
  start_le_stop : w.start ≤ w.stop
  /-- They are rows of the table. -/
  stop_le : w.stop ≤ heights.length
  /-- The space above is that of the rows above. -/
  paddingTop_eq : w.paddingTop = (heights.take w.start).sum
  /-- The space below is what the rows down to the end of the window leave. -/
  add_paddingBottom : (heights.take w.stop).sum + w.paddingBottom = heights.sum

/-- The rows in the window fill the space between its paddings. -/
lemma Window.Cuts.sum_eq {w : Window} {heights : List Nat} (h : w.Cuts heights) :
    w.paddingTop + ((heights.take w.stop).drop w.start).sum + w.paddingBottom = heights.sum := by
  have habove : (heights.take w.stop).take w.start = heights.take w.start := by
    rw [List.take_take, min_eq_left h.start_le_stop]
  have hinner := List.sum_take_add_sum_drop (heights.take w.stop) w.start
  rw [habove] at hinner
  rw [h.paddingTop_eq, hinner, h.add_paddingBottom]

namespace WindowCalculator

/-! ## Uniform rows -/

/-- The first rows of a table with uniform rows. -/
lemma sum_take_replicate {count row height : Nat} (hrow : row ≤ count) :
    ((List.replicate count height).take row).sum = row * height := by
  rw [List.take_replicate, min_eq_left hrow, List.sum_replicate_nat]

/-- What the rows before `row` leave of `count` rows. -/
lemma mul_add_sub_mul {count row height : Nat} (hrow : row ≤ count) :
    row * height + (count - row) * height = count * height := by
  rw [← Nat.add_mul, Nat.add_sub_cancel' hrow]

/-- Uniform rows are not searched past the last one. -/
lemma uniformTop_div_le (rule : WindowCalculator) (count : Nat) (v : Viewport) :
    rule.uniformTop count v / rule.rowHeight.lines ≤ count := by
  have hclamped := clampScrollTop_le v.top (count * rule.rowHeight.lines) v.height
  rw [maxScrollTop, Offset.ofHeight] at hclamped
  have htop : rule.uniformTop count v ≤ count * rule.rowHeight.lines := by
    rw [uniformTop]
    omega
  calc rule.uniformTop count v / rule.rowHeight.lines
      ≤ count * rule.rowHeight.lines / rule.rowHeight.lines := Nat.div_le_div_right htop
    _ = count := Nat.mul_div_cancel _ rule.rowHeight.pos

/-- A window of uniform rows cuts them. -/
lemma uniform_cuts (rule : WindowCalculator) (count : Nat) (v : Viewport) :
    (rule.uniform count v).Cuts (List.replicate count rule.rowHeight.lines) := by
  set first := rule.uniformTop count v / rule.rowHeight.lines with hfirst
  have hstart : (rule.uniform count v).start = alignToStripe (first - rule.overscan) := rfl
  have hstop : (rule.uniform count v).stop = min count (alignToStripe (first - rule.overscan) +
      rowsCovering v.height rule.rowHeight.lines + rule.overscan * 2) := rfl
  have halign := alignToStripe_le (first - rule.overscan)
  have hlast : first ≤ count := rule.uniformTop_div_le count v
  have hstart_le : (rule.uniform count v).start ≤ count := by omega
  have hstop_le : (rule.uniform count v).stop ≤ count := by omega
  exact {
    start_le_stop := by omega
    stop_le := by rwa [List.length_replicate]
    paddingTop_eq := (sum_take_replicate hstart_le).symm
    add_paddingBottom := by
      rw [sum_take_replicate hstop_le, List.sum_replicate_nat]
      exact mul_add_sub_mul hstop_le }

/-! ## Measured rows -/

section Measured

variable {x : HeightIndex} {heights : List Nat}

/-- A window whose paddings are read off the index cuts the rows of the index. -/
lemma cuts_of_offsets (hx : x.Indexes heights) {start stop : Nat} (horder : start ≤ stop)
    (hstop : stop ≤ heights.length) :
    (⟨start, stop, x.offsetOf start, x.total - x.offsetOf stop⟩ : Window).Cuts heights where
  start_le_stop := horder
  stop_le := hstop
  paddingTop_eq := hx.offsetOf_eq (horder.trans hstop)
  add_paddingBottom := by
    have hle := hx.offsetOf_le_total hstop
    rw [← hx.offsetOf_eq hstop, ← hx.total_eq]
    exact Nat.add_sub_cancel' hle

/-- The search for the bottom edge ends no higher than the search for a top above it. -/
lemma lowerBound_getD_le_stop (hx : x.Indexes heights) {top bottom : Nat} (hle : top ≤ bottom) :
    (x.lowerBound top).getD (x.len - 1) ≤
      match x.lowerBound bottom with
      | some row => row + 1
      | none => x.len := by
  cases hbottom : x.lowerBound bottom with
  | some row =>
    obtain ⟨hrow, -, hend⟩ := hx.lowerBound_eq_some_iff.mp hbottom
    exact (lowerBound_getD_le hx hrow (hle.trans_lt hend)).trans (Nat.le_succ row)
  | none =>
    cases htop : x.lowerBound top with
    | some row =>
      have hrow := (hx.lowerBound_eq_some_iff.mp htop).1
      rw [← hx.len_eq] at hrow
      exact hrow.le
    | none => exact Nat.sub_le ..

/-- The search for the bottom edge ends inside the rows. -/
lemma lowerBound_stop_le (hx : x.Indexes heights) (bottom : Nat) :
    (match x.lowerBound bottom with
      | some row => row + 1
      | none => x.len) ≤ heights.length := by
  cases hbottom : x.lowerBound bottom with
  | some row => exact (hx.lowerBound_eq_some_iff.mp hbottom).1
  | none => exact hx.len_eq.le

/-- The search for the first row ends inside the rows. -/
lemma lowerBound_getD_lt (hx : x.Indexes heights) (hrows : 0 < heights.length) (top : Nat) :
    (x.lowerBound top).getD (x.len - 1) < heights.length := by
  cases htop : x.lowerBound top with
  | some row => exact (hx.lowerBound_eq_some_iff.mp htop).1
  | none =>
    rw [Option.getD_none, hx.len_eq]
    omega

/-- A window of measured rows cuts them, if its top can be represented. -/
lemma measuredAt_cuts (hx : x.Indexes heights) (hrows : 0 < heights.length) {top : Int}
    (htop : top ≤ Offset.highest) (height : Nat) : (measuredAt x top height).Cuts heights := by
  have halign := alignToStripe_le ((x.lowerBound top.toNat).getD (x.len - 1))
  have hbottom : top ≤ Offset.saturate (top + height) := Offset.le_saturate (by omega) htop
  have hfirst := lowerBound_getD_lt hx hrows top.toNat
  unfold measuredAt
  apply cuts_of_offsets hx
  · split
    · exact le_rfl
    · exact halign.trans (lowerBound_getD_le_stop hx (by omega))
  · split
    · exact halign.trans hfirst.le
    · exact lowerBound_stop_le hx _

/-- Pulling a viewport back leaves a top that can be represented. -/
lemma measuredTop_le_highest {v : Viewport} (htop : v.top ≤ Offset.highest) :
    measuredTop x v ≤ Offset.highest := by
  have htotal : Offset.ofHeight x.total ≤ Offset.highest := min_le_right ..
  have hzero : 0 ≤ Offset.highest := by decide
  simp only [measuredTop]
  split
  · exact max_le hzero (by omega)
  · exact htop

end Measured

/-! ## Viewports without height -/

/-- Without measured heights, a window without rows cuts the uniform ones. -/
lemma collapsed_none_cuts (rule : WindowCalculator) (count : Nat) (v : Viewport) :
    (rule.collapsed count v none).Cuts (List.replicate count rule.rowHeight.lines) := by
  set row := min ((clampScrollTop v.top (count * rule.rowHeight.lines) 0).toNat /
    rule.rowHeight.lines) count with hrow
  have hstart : (rule.collapsed count v none).start = row := rfl
  have hstop : (rule.collapsed count v none).stop = row := rfl
  have hle : row ≤ count := min_le_right ..
  exact {
    start_le_stop := le_rfl
    stop_le := by rwa [hstop, List.length_replicate]
    paddingTop_eq := (sum_take_replicate hle).symm
    add_paddingBottom := by
      rw [hstop, sum_take_replicate hle, List.sum_replicate_nat]
      exact Nat.add_sub_cancel' (Nat.mul_le_mul_right _ hle) }

/-- With measured heights, a window without rows cuts the measured ones. -/
lemma collapsed_some_cuts (rule : WindowCalculator) {x : HeightIndex} {heights : List Nat}
    (hx : x.Indexes heights) (v : Viewport) :
    (rule.collapsed heights.length v (some x)).Cuts heights := by
  have hle : (x.lowerBound (clampScrollTop v.top x.total 0).toNat).getD heights.length ≤
      heights.length := by
    cases htop : x.lowerBound (clampScrollTop v.top x.total 0).toNat with
    | some row => exact (hx.lowerBound_eq_some_iff.mp htop).1.le
    | none => exact le_rfl
  exact cuts_of_offsets hx le_rfl hle

/-! ## Every way -/

/-- An index of exactly these rows is used. -/
lemma matching_of_len {x : HeightIndex} {count : Nat} (h : x.len = count) :
    matching count (some x) = some x := by
  simp [matching, Option.filter, h]

/-- An index of another number of rows is passed over. -/
lemma matching_of_len_ne {x : HeightIndex} {count : Nat} (h : x.len ≠ count) :
    matching count (some x) = none := by
  simp [matching, Option.filter, h]

/-- An index that is passed over leaves no trace. -/
lemma compute_of_len_ne (rule : WindowCalculator) {x : HeightIndex} {count : Nat}
    (h : x.len ≠ count) (v : Viewport) :
    rule.compute count v (some x) = rule.compute count v none := by
  unfold compute
  rw [matching_of_len_ne h]
  rfl

/-- Without measured heights, the window found cuts the uniform rows. -/
lemma compute_none_cuts (rule : WindowCalculator) (count : Nat) (v : Viewport) :
    (rule.compute count v none).Cuts (List.replicate count rule.rowHeight.lines) := by
  unfold compute
  split
  · subst count
    exact ⟨le_rfl, le_rfl, rfl, rfl⟩
  · split
    · exact rule.collapsed_none_cuts count v
    · exact rule.uniform_cuts count v

/-- With an index of exactly these rows, the window found cuts the measured rows. -/
lemma compute_some_cuts (rule : WindowCalculator) {x : HeightIndex} {heights : List Nat}
    (hx : x.Indexes heights) {v : Viewport} (htop : v.top ≤ Offset.highest) :
    (rule.compute heights.length v (some x)).Cuts heights := by
  unfold compute
  rw [matching_of_len hx.len_eq]
  split
  · rename_i hzero
    obtain rfl : heights = [] := List.length_eq_zero_iff.mp hzero
    exact ⟨le_rfl, le_rfl, rfl, rfl⟩
  · rename_i hrows
    split
    · exact rule.collapsed_some_cuts hx v
    · exact measuredAt_cuts hx (Nat.pos_of_ne_zero hrows) (measuredTop_le_highest htop) _

/-- In a viewport with height, a window starts on an even row. -/
lemma compute_start_even (rule : WindowCalculator) (count : Nat) {v : Viewport}
    (hheight : 0 < v.height) (index : Option HeightIndex) :
    (rule.compute count v index).start % 2 = 0 := by
  unfold compute
  rw [if_neg hheight.ne']
  split
  · rfl
  · split
    · exact alignToStripe_even _
    · exact alignToStripe_even _

/-- In a viewport without height, a window holds no row. -/
lemma compute_start_eq_stop (rule : WindowCalculator) (count : Nat) {v : Viewport}
    (hheight : v.height = 0) (index : Option HeightIndex) :
    (rule.compute count v index).start = (rule.compute count v index).stop := by
  unfold compute
  rw [if_pos hheight]
  split <;> rfl

/-! ## Offsets and heights of the rows -/

/-- The heights of `count` rows: the measured ones, if there are exactly so many. -/
def rowHeights (rule : WindowCalculator) (count : Nat) (measured : Option (List Nat)) : List Nat :=
  match measured with
  | some heights =>
    if heights.length = count then heights else List.replicate count rule.rowHeight.lines
  | none => List.replicate count rule.rowHeight.lines

/-- The offset at which a row begins, from an index of exactly `count` rows or else from the uniform
height. -/
def rowOffset (rule : WindowCalculator) (count : Nat) (index : Option HeightIndex) (row : Nat) :
    Nat :=
  match index with
  | some x => if x.len = count then x.offsetOf row else row * rule.rowHeight.lines
  | none => row * rule.rowHeight.lines

/-- The height of all rows, from an index of exactly `count` rows or else from the uniform
height. -/
def contentHeight (rule : WindowCalculator) (count : Nat) (index : Option HeightIndex) : Nat :=
  match index with
  | some x => if x.len = count then x.total else count * rule.rowHeight.lines
  | none => count * rule.rowHeight.lines

/-- There are `count` heights. -/
lemma length_rowHeights (rule : WindowCalculator) (count : Nat) (measured : Option (List Nat)) :
    (rule.rowHeights count measured).length = count := by
  unfold rowHeights
  split
  · split
    · assumption
    · exact List.length_replicate
  · exact List.length_replicate

/-- The offset of a row is the sum of the heights before it. -/
lemma rowOffset_eq (rule : WindowCalculator) {count : Nat} (measured : Option (List Nat))
    {row : Nat} (hrow : row ≤ count) :
    rule.rowOffset count (measured.map HeightIndex.ofHeights) row =
      ((rule.rowHeights count measured).take row).sum := by
  cases measured with
  | none => exact (sum_take_replicate hrow).symm
  | some heights =>
    simp only [rowOffset, rowHeights, Option.map_some, HeightIndex.len_ofHeights]
    split
    · rename_i hlength
      exact (HeightIndex.indexes_ofHeights heights).offsetOf_eq (hlength ▸ hrow)
    · exact (sum_take_replicate hrow).symm

/-- The height of all rows is the sum of their heights. -/
lemma contentHeight_eq (rule : WindowCalculator) (count : Nat) (measured : Option (List Nat)) :
    rule.contentHeight count (measured.map HeightIndex.ofHeights) =
      (rule.rowHeights count measured).sum := by
  cases measured with
  | none => exact List.sum_replicate_nat.symm
  | some heights =>
    simp only [contentHeight, rowHeights, Option.map_some, HeightIndex.len_ofHeights]
    split
    · exact (HeightIndex.indexes_ofHeights heights).total_eq
    · exact List.sum_replicate_nat.symm

/-- Whatever heights have been measured, the window found cuts the rows. -/
lemma compute_cuts (rule : WindowCalculator) (count : Nat) {v : Viewport}
    (htop : v.top ≤ Offset.highest) (measured : Option (List Nat)) :
    (rule.compute count v (measured.map HeightIndex.ofHeights)).Cuts
      (rule.rowHeights count measured) := by
  cases measured with
  | none => exact rule.compute_none_cuts count v
  | some heights =>
    simp only [rowHeights, Option.map_some]
    split
    · subst count
      exact rule.compute_some_cuts (HeightIndex.indexes_ofHeights heights) htop
    · rename_i hlength
      rw [← HeightIndex.len_ofHeights heights] at hlength
      rw [rule.compute_of_len_ne hlength]
      exact rule.compute_none_cuts count v

/-- **Shape of windows.**  For any number of rows, row height, overscan, viewport and index of any
rows, the window lies inside the table; its paddings are the offset at which its first row begins
and what the content has left where its last row ends, so that nothing of the content is lost; it
starts on an even row if the viewport has height, holds no row if it has none, and a table without
rows has the empty window. -/
theorem window_cuts_content (rule : WindowCalculator) (count : Nat) (v : Viewport)
    (htop : v.top ≤ Offset.highest) (measured : Option (List Nat)) :
    let index := measured.map HeightIndex.ofHeights
    let w := rule.compute count v index
    (w.start ≤ w.stop ∧ w.stop ≤ count) ∧
    (w.paddingTop = rule.rowOffset count index w.start ∧
      rule.rowOffset count index w.stop ≤ rule.contentHeight count index ∧
      w.paddingBottom = rule.contentHeight count index - rule.rowOffset count index w.stop ∧
      w.paddingTop + (((rule.rowHeights count measured).take w.stop).drop w.start).sum +
        w.paddingBottom = rule.contentHeight count index) ∧
    (0 < v.height → w.start % 2 = 0) ∧ (v.height = 0 → w.start = w.stop) ∧
    (count = 0 → w = .empty) := by
  intro index w
  have hcuts : w.Cuts (rule.rowHeights count measured) := rule.compute_cuts count htop measured
  have hstop : w.stop ≤ count := rule.length_rowHeights count measured ▸ hcuts.stop_le
  have hbelow : rule.rowOffset count index w.stop + w.paddingBottom =
      rule.contentHeight count index := by
    rw [rule.rowOffset_eq measured hstop, rule.contentHeight_eq count measured]
    exact hcuts.add_paddingBottom
  refine ⟨⟨hcuts.start_le_stop, hstop⟩, ⟨?_, by omega, by omega, ?_⟩,
    fun hheight => rule.compute_start_even count hheight index,
    fun hheight => rule.compute_start_eq_stop count hheight index, fun hcount => if_pos hcount⟩
  · rw [rule.rowOffset_eq measured (hcuts.start_le_stop.trans hstop)]
    exact hcuts.paddingTop_eq
  · rw [rule.contentHeight_eq count measured]
    exact hcuts.sum_eq

/-- Five measured rows, two of them without height, below a viewport at the highest offset. -/
theorem window_cuts_content_past_the_end :
    let index := (some [0, 7, 0, 5, 2]).map HeightIndex.ofHeights
    let w := (⟨⟨3, by decide⟩, 1⟩ : WindowCalculator).compute 5 ⟨Offset.highest, 4⟩ index
    Offset.highest ≤ Offset.highest ∧ w = ⟨2, 5, 7, 0⟩ ∧ w.start % 2 = 0 ∧
      w.paddingTop + [0, 5, 2].sum + w.paddingBottom = [0, 7, 0, 5, 2].sum := by
  intro index w
  have hw : w = ⟨2, 5, 7, 0⟩ := by decide +kernel
  obtain ⟨-, ⟨-, -, -, hsum⟩, heven, -⟩ :=
    window_cuts_content ⟨⟨3, by decide⟩, 1⟩ 5 ⟨Offset.highest, 4⟩ le_rfl (some [0, 7, 0, 5, 2])
  refine ⟨le_rfl, hw, heven (by decide), ?_⟩
  rw [show (⟨⟨3, by decide⟩, 1⟩ : WindowCalculator).compute 5 ⟨Offset.highest, 4⟩
    ((some [0, 7, 0, 5, 2]).map HeightIndex.ofHeights) = ⟨2, 5, 7, 0⟩ from hw] at hsum
  rw [hw]
  exact hsum.trans (by decide +kernel)

end WindowCalculator

end FlowWatch
