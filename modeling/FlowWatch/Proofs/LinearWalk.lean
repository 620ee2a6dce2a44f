import Mathlib
import FlowWatch.Proofs.WindowShape

/-!
# Measured windows by a linear walk

The window of measured rows is found by two binary searches over a tree of sums.  Here it is found
again by walking down the list of heights: `bottomEdges` and `topEdges` are the offsets at which the
rows end and begin, the first row is the first whose bottom edge lies below the top, and the rows up
to the bottom edge are counted.  The two windows are equal (`measured_window_eq_walk`).

A search and a walk agree because the edges grow with the row: the first edge above an offset is the
one the search finds (`findIdx?_bottomEdges`), and the edges up to an offset are the first ones
(`countP_topEdges`).

Rows that end exactly at the highest offset are the one exception.  A bottom edge below it is cut off
there, so that nothing is seen to reach past the rows, and the viewport stays where it is
(`compute_eq_walkWindow_of_sum_eq`) where the walk pulls it back (`measured_window_ne_walk`).
-/

namespace FlowWatch

attribute [ext] Window

namespace WindowCalculator

/-! ## The walk -/

/-- The offsets at which the rows begin, in row order. -/
def topEdges (heights : List Nat) : List Nat := heights.partialSums.dropLast

/-- The offsets at which the rows end, in row order. -/
def bottomEdges (heights : List Nat) : List Nat := heights.partialSums.tail

/-- The window found by walking over the edges of the rows, for a viewport at `top`. -/
def walkWindow (heights : List Nat) (top : Int) (height : Nat) : Window :=
  let first := ((bottomEdges heights).findIdx? fun edge : Nat => max top 0 < (edge : Int)).getD
    (heights.length - 1)
  let start := 2 * (first / 2)
  let stop :=
    if top + height < 0 then start
    else (topEdges heights).countP fun edge : Nat => (edge : Int) ≤ top + height
  { start, stop
    paddingTop := (heights.take start).sum
    paddingBottom := (heights.drop stop).sum }

/-- The top of a viewport after it has been pulled back to the end of rows that end above its bottom
edge, but not above the first row.  The bottom edge is not cut off. -/
def pulledBackTop (total : Nat) (v : Viewport) : Int :=
  if 0 < v.top ∧ (total : Int) < v.top + v.height then max 0 (total - v.height) else v.top

/-! ## Edges of rows -/

section Edges

variable {x : HeightIndex} {heights : List Nat}

/-- Every row has a bottom edge. -/
lemma length_bottomEdges (heights : List Nat) : (bottomEdges heights).length = heights.length := by
  simp [bottomEdges]

/-- Every row has a top edge. -/
lemma length_topEdges (heights : List Nat) : (topEdges heights).length = heights.length := by
  simp [topEdges]

/-- A row ends where the next one begins. -/
lemma getElem_bottomEdges (hx : x.Indexes heights) {i : Nat}
    (hi : i < (bottomEdges heights).length) :
    (bottomEdges heights)[i] = x.offsetOf (i + 1) := by
  have hi' : i < heights.length := by rwa [length_bottomEdges] at hi
  rw [hx.offsetOf_eq hi']
  simp [bottomEdges]

/-- A row begins at its offset. -/
lemma getElem_topEdges (hx : x.Indexes heights) {i : Nat} (hi : i < (topEdges heights).length) :
    (topEdges heights)[i] = x.offsetOf i := by
  have hi' : i < heights.length := by rwa [length_topEdges] at hi
  rw [hx.offsetOf_eq hi'.le]
  simp [topEdges]

/-- The first bottom edge below an offset is that of the row found for the offset. -/
lemma findIdx?_bottomEdges (hx : x.Indexes heights) (value : Nat) :
    (bottomEdges heights).findIdx? (fun edge => value < edge) = x.lowerBound value := by
  cases hfound : x.lowerBound value with
  | some row =>
    obtain ⟨hrow, hbegin, hend⟩ := hx.lowerBound_eq_some_iff.mp hfound
    rw [List.findIdx?_eq_some_iff_getElem]
    refine ⟨by rwa [length_bottomEdges], ?_, fun j hj => ?_⟩
    · rw [getElem_bottomEdges hx]
      exact decide_eq_true hend
    · rw [getElem_bottomEdges hx, decide_eq_true_iff, Nat.not_lt]
      exact (hx.offsetOf_mono hj hrow.le).trans hbegin
  | none =>
    have htotal := hx.lowerBound_eq_none_iff.mp hfound
    rw [List.findIdx?_eq_none_iff]
    intro edge hedge
    obtain ⟨i, hi, rfl⟩ := List.mem_iff_getElem.mp hedge
    have hi' : i < heights.length := by rwa [length_bottomEdges] at hi
    rw [getElem_bottomEdges hx, decide_eq_false_iff_not, Nat.not_lt]
    exact (hx.offsetOf_le_total hi').trans htotal

/-- If exactly the first `count` members have a property, there are `count` with it. -/
lemma countP_eq_of_prefix {α : Type*} {p : α → Bool} {list : List α} {count : Nat}
    (hcount : count ≤ list.length) (hbefore : ∀ i (hi : i < list.length), i < count → p list[i])
    (hafter : ∀ i (hi : i < list.length), count ≤ i → ¬ p list[i]) : list.countP p = count := by
  have htake : (list.take count).countP p = (list.take count).length := by
    rw [List.countP_eq_length]
    intro a ha
    obtain ⟨i, hi, rfl⟩ := List.mem_take_iff_getElem.mp ha
    exact hbefore i (by omega) (by omega)
  have hdrop : (list.drop count).countP p = 0 := by
    rw [List.countP_eq_zero]
    intro a ha
    obtain ⟨i, hi, rfl⟩ := List.mem_drop_iff_getElem.mp ha
    exact hafter _ (by omega) (Nat.le_add_right ..)
  rw [← List.take_append_drop count list, List.countP_append, htake, hdrop, List.length_take,
    min_eq_left hcount, Nat.add_zero]

/-- The top edges down to an offset are those of the rows stopped at it. -/
lemma countP_topEdges (hx : x.Indexes heights) (value : Nat) :
    (topEdges heights).countP (fun edge => edge ≤ value) =
      match x.lowerBound value with
      | some row => row + 1
      | none => x.len := by
  have hlength := length_topEdges heights
  apply countP_eq_of_prefix
  · rw [hlength]
    exact lowerBound_stop_le hx value
  · intro i hi hbefore
    rw [getElem_topEdges hx, decide_eq_true_iff]
    exact offsetOf_le_of_lt_stop hx (by omega) hbefore
  · intro i hi hafter
    rw [getElem_topEdges hx, decide_eq_true_iff]
    exact fun hbegin => absurd (lt_stop_of_offsetOf_le hx (by omega) hbegin) (Nat.not_lt.mpr hafter)

end Edges

/-! ## Searching and walking -/

section Walk

variable {x : HeightIndex} {heights : List Nat}

/-- Walking for the first row leads to the row that is searched. -/
lemma walk_first (hx : x.Indexes heights) (top : Int) :
    ((bottomEdges heights).findIdx? fun edge : Nat => max top 0 < (edge : Int)) =
      x.lowerBound top.toNat := by
  rw [← findIdx?_bottomEdges hx]
  congr 1
  funext edge
  rw [decide_eq_decide]
  omega

/-- Counting the rows down to the bottom edge leads to the row that is searched for it, also where
the bottom edge is cut off at the highest offset. -/
lemma walk_stop (hx : x.Indexes heights) (hfit : (x.total : Int) ≤ Offset.highest) {bottom : Int}
    (hnonneg : 0 ≤ bottom) :
    ((topEdges heights).countP fun edge : Nat => (edge : Int) ≤ bottom) =
      match x.lowerBound (Offset.saturate bottom).toNat with
      | some row => row + 1
      | none => x.len := by
  rw [← countP_topEdges hx]
  apply List.countP_congr
  intro edge hedge
  obtain ⟨i, hi, rfl⟩ := List.mem_iff_getElem.mp hedge
  have hi' : i < heights.length := by rwa [length_topEdges] at hi
  have hle : (x.offsetOf i : Int) ≤ Offset.highest := by
    have := hx.offsetOf_le_total hi'.le
    omega
  rw [getElem_topEdges hx, decide_eq_true_iff, decide_eq_true_iff, Offset.saturate]
  have hlow : Offset.lowest < 0 := by decide
  omega

/-- The even row that a walk starts at is the one that a search is moved up to. -/
lemma alignToStripe_eq (index : Nat) : alignToStripe index = 2 * (index / 2) := by
  unfold alignToStripe
  omega

/-- The rows from `row` on have what the rows before it leave of the content. -/
lemma sum_drop_eq (hx : x.Indexes heights) {row : Nat} (hrow : row ≤ heights.length) :
    (heights.drop row).sum = x.total - x.offsetOf row := by
  rw [hx.total_eq, hx.offsetOf_eq hrow, ← List.sum_take_add_sum_drop heights row,
    Nat.add_sub_cancel_left]

/-- A walk starts at the row that is searched. -/
lemma walkWindow_start (hx : x.Indexes heights) (top : Int) (height : Nat) :
    (walkWindow heights top height).start =
      2 * ((x.lowerBound top.toNat).getD (heights.length - 1) / 2) := by
  simp only [walkWindow, walk_first hx]

/-- Searching and walking find the same window, if the content fits an offset. -/
lemma measuredAt_eq_walkWindow (hx : x.Indexes heights) (hrows : 0 < heights.length)
    (hfit : (x.total : Int) ≤ Offset.highest) {top : Int} (htop : top ≤ Offset.highest)
    (height : Nat) : measuredAt x top height = walkWindow heights top height := by
  have hcuts := measuredAt_cuts hx hrows htop height
  have hstart : (measuredAt x top height).start = (walkWindow heights top height).start := by
    simp only [measuredAt, walkWindow_start hx, alignToStripe_eq, hx.len_eq]
  have hstop : (measuredAt x top height).stop = (walkWindow heights top height).stop := by
    have hsign : Offset.saturate (top + height) < 0 ↔ top + height < 0 := by
      have hlow : Offset.lowest < 0 := by decide
      have hhigh : 0 ≤ Offset.highest := by decide
      unfold Offset.saturate
      omega
    simp only [measuredAt, walkWindow, hsign]
    split
    · exact hstart
    · rename_i hnonneg
      exact (walk_stop hx hfit (not_lt.mp hnonneg)).symm
  have habove : (measuredAt x top height).paddingTop =
      (walkWindow heights top height).paddingTop := by
    rw [hcuts.paddingTop_eq, hstart]
    rfl
  have hbelow : (measuredAt x top height).paddingBottom =
      (walkWindow heights top height).paddingBottom := by
    have hdrop : (walkWindow heights top height).paddingBottom =
        (heights.drop (walkWindow heights top height).stop).sum := rfl
    rw [hdrop, ← hstop, sum_drop_eq hx hcuts.stop_le]
    rfl
  exact Window.ext hstart hstop habove hbelow

/-- A viewport is pulled back as the walk does it, unless its bottom edge is cut off where the rows
end. -/
lemma measuredTop_eq_pulledBackTop {v : Viewport} (hfit : (x.total : Int) ≤ Offset.highest)
    (hedge : (x.total : Int) < Offset.highest ∨ v.top + v.height ≤ Offset.highest) :
    measuredTop x v = pulledBackTop x.total v := by
  have hlow : Offset.lowest < 0 := by decide
  have hpast : (x.total : Int) < v.bottom ↔ (x.total : Int) < v.top + v.height := by
    rw [Viewport.bottom, Offset.saturate]
    omega
  simp only [measuredTop, pulledBackTop, Offset.ofHeight_eq hfit, gt_iff_lt, hpast]

/-- Rows that end at the highest offset end above no bottom edge, and nothing is pulled back. -/
lemma measuredTop_of_total_eq (htotal : (x.total : Int) = Offset.highest) (v : Viewport) :
    measuredTop x v = v.top := by
  have hbottom : v.bottom ≤ Offset.highest := Offset.saturate_le_highest _
  apply if_neg
  rw [Offset.ofHeight_eq htotal.le]
  exact fun hpast => absurd hpast.2 (by omega)

/-- A viewport that has been pulled back stays where it is. -/
lemma measuredTop_pulledBackTop (hfit : (x.total : Int) ≤ Offset.highest) (v : Viewport) :
    measuredTop x (v.withTop (pulledBackTop x.total v)) = pulledBackTop x.total v := by
  apply if_neg
  rintro ⟨hpos, hbottom⟩
  have hreach := Offset.le_of_le_saturate (x := _) (y := (x.total : Int) + 1)
    (by unfold Offset.lowest; omega) (by rwa [Offset.ofHeight_eq hfit] at hbottom)
  simp only [Viewport.withTop_top, Viewport.withTop_height, pulledBackTop] at hpos hreach
  split at hpos <;> omega

/-- A viewport is pulled back to the nearest offset that keeps it inside the content. -/
lemma pulledBackTop_eq_clampScrollTop {total : Nat} {v : Viewport}
    (hfit : (total : Int) ≤ Offset.highest) (htop : 0 ≤ v.top) :
    pulledBackTop total v = clampScrollTop v.top total v.height := by
  rw [clampScrollTop, maxScrollTop, Offset.ofHeight_eq (by omega), pulledBackTop]
  split <;> omega

end Walk

/-- Over rows that end at the highest offset the window is found where the viewport is. -/
lemma compute_eq_walkWindow_of_sum_eq (rule : WindowCalculator) {heights : List Nat} {v : Viewport}
    (hsum : (heights.sum : Int) = Offset.highest) (htop : v.top ≤ Offset.highest)
    (hheight : 0 < v.height) :
    rule.compute heights.length v (some (.ofHeights heights)) =
      walkWindow heights v.top v.height := by
  have hx := HeightIndex.indexes_ofHeights heights
  have hcount : 0 < heights.length := by
    rw [List.length_pos_iff]
    rintro rfl
    exact absurd hsum (by decide)
  have htotal : ((HeightIndex.ofHeights heights).total : Int) = Offset.highest := by
    rw [hx.total_eq, hsum]
  rw [rule.compute_some hx hcount hheight, measured, measuredTop_of_total_eq htotal]
  exact measuredAt_eq_walkWindow hx hcount htotal.le htop v.height

/-- **Searching and walking agree.**  For rows of any heights that add up to an offset, any top that
is an offset and any viewport with height, the window found by searching the index is the one found
by walking over the edges of the rows, unless the rows end at the highest offset and the viewport
reaches past it.  Pulling the viewport back once is enough: once more changes nothing, and of a top
that is not negative it leaves the nearest one inside the content. -/
theorem measured_window_eq_walk (rule : WindowCalculator) (heights : List Nat) (v : Viewport)
    (hrows : heights ≠ []) (hfit : (heights.sum : Int) ≤ Offset.highest)
    (htop : v.top ≤ Offset.highest) (hheight : 0 < v.height) :
    let x := HeightIndex.ofHeights heights
    let top := pulledBackTop heights.sum v
    ((heights.sum : Int) < Offset.highest ∨ v.top + v.height ≤ Offset.highest →
      rule.compute heights.length v (some x) = walkWindow heights top v.height) ∧
    measuredTop x (v.withTop top) = top ∧
    (0 ≤ v.top → top = clampScrollTop v.top heights.sum v.height) := by
  intro x top
  have hx : x.Indexes heights := HeightIndex.indexes_ofHeights heights
  have hcount : 0 < heights.length := List.length_pos_iff.mpr hrows
  have htotal : x.total = heights.sum := hx.total_eq
  have hfit' : (x.total : Int) ≤ Offset.highest := by rwa [htotal]
  refine ⟨fun hedge => ?_, ?_, pulledBackTop_eq_clampScrollTop hfit⟩
  · have hsearched : measuredTop x v = top := by
      rw [measuredTop_eq_pulledBackTop hfit' (by rwa [htotal]), htotal]
    rw [rule.compute_some hx hcount hheight, measured, hsearched]
    apply measuredAt_eq_walkWindow hx hcount hfit'
    rw [← hsearched]
    exact measuredTop_le_highest htop
  · have honce := measuredTop_pulledBackTop hfit' v
    rwa [htotal] at honce

/-- Rows of which one has no height, one ends at the top and the last are passed: the viewport is
pulled back to where they end. -/
theorem measured_window_eq_walk_past_the_end :
    let x := HeightIndex.ofHeights [4, 6, 0, 3, 5]
    ([4, 6, 0, 3, 5] ≠ [] ∧ (([4, 6, 0, 3, 5].sum : Nat) : Int) ≤ Offset.highest ∧
      (12 : Int) ≤ Offset.highest ∧ 0 < 8) ∧
    (⟨⟨1, by decide⟩, 1⟩ : WindowCalculator).compute 5 ⟨12, 8⟩ (some x) =
      walkWindow [4, 6, 0, 3, 5] 10 8 ∧
    walkWindow [4, 6, 0, 3, 5] 10 8 = ⟨2, 5, 10, 0⟩ := by
  obtain ⟨hwalk, -, -⟩ := measured_window_eq_walk ⟨⟨1, by decide⟩, 1⟩ [4, 6, 0, 3, 5] ⟨12, 8⟩
    (by decide) (by decide) (by decide) (by decide)
  exact ⟨by decide, hwalk (by decide), by decide⟩

/-! ## Rows that end at the highest offset -/

section EndsHighest

variable (count height : Nat) (others : List Nat)

/-- The sum of many equal heights and of others after them. -/
lemma sum_replicate_append :
    (List.replicate count height ++ others).sum = count * height + others.sum := by
  rw [List.sum_append, List.sum_replicate, smul_eq_mul]

/-- The sum of many equal heights and of the first ones after them. -/
lemma sum_take_replicate_append (more : Nat) :
    ((List.replicate count height ++ others).take (count + more)).sum =
      count * height + (others.take more).sum := by
  have htake : (List.replicate count height ++ others).take
      ((List.replicate count height).length + more) =
        List.replicate count height ++ others.take more := List.take_length_add_append more
  rw [List.length_replicate] at htake
  rw [htake, List.sum_append, List.sum_replicate, smul_eq_mul]

/-- Many equal heights and others after them are bounded if the height and the others are. -/
lemma forall_mem_replicate_append {bound : Nat} (hheight : height ≤ bound)
    (hothers : ∀ other ∈ others, other ≤ bound) :
    ∀ row ∈ List.replicate count height ++ others, row ≤ bound := by
  intro row hrow
  rcases List.mem_append.mp hrow with hmany | hother
  · rw [List.eq_of_mem_replicate hmany]
    exact hheight
  · exact hothers row hother

end EndsHighest

/-- A viewport of five lines at the highest offset, over rows that end there: the walk pulls it back
to the last five rows, but its bottom edge is cut off, so that it stays where it is and its window
begins at the last row. -/
theorem measured_window_ne_walk :
    let heights := List.replicate 2147483648 4294967295 ++ [2147483643, 1, 1, 1, 1]
    let rule : WindowCalculator := ⟨.one, 1⟩
    let v : Viewport := ⟨Offset.highest, 5⟩
    let searched := rule.compute heights.length v (some (.ofHeights heights))
    let walked := walkWindow heights (pulledBackTop heights.sum v) v.height
    (∀ height ∈ heights, height ≤ 4294967295) ∧ (heights.sum : Int) = Offset.highest ∧
      searched.start = 2147483652 ∧ walked.start = 2147483648 ∧ searched ≠ walked := by
  have hlength : (List.replicate 2147483648 4294967295 ++ [2147483643, 1, 1, 1, 1]).length =
      2147483648 + 5 := by
    rw [List.length_append, List.length_replicate]
    rfl
  have hsum := sum_replicate_append 2147483648 4294967295 [2147483643, 1, 1, 1, 1]
  have hbegin := sum_take_replicate_append 2147483648 4294967295 [2147483643, 1, 1, 1, 1] 0
  have hnext := sum_take_replicate_append 2147483648 4294967295 [2147483643, 1, 1, 1, 1] 1
  have hsmall := forall_mem_replicate_append 2147483648 4294967295 [2147483643, 1, 1, 1, 1]
    le_rfl (by decide)
  -- the heights are any with these sums, so that nothing unfolds their list
  generalize List.replicate 2147483648 4294967295 ++ [2147483643, 1, 1, 1, 1] = heights at *
  intro heights' rule v searched walked
  have hx := HeightIndex.indexes_ofHeights heights
  have hend : (heights.sum : Int) = Offset.highest := by
    rw [hsum]
    rfl
  have hsearched : searched.start = 2147483652 := by
    have hnone : (HeightIndex.ofHeights heights).lowerBound Offset.highest.toNat = none := by
      rw [hx.lowerBound_eq_none_iff, hx.total_eq, hsum]
      decide
    have hstays : searched = walkWindow heights v.top v.height :=
      rule.compute_eq_walkWindow_of_sum_eq hend le_rfl (by decide)
    rw [hstays, walkWindow_start hx, hnone, hlength]
    rfl
  have hwalked : walked.start = 2147483648 := by
    have hfirst : (HeightIndex.ofHeights heights).lowerBound 9223372036854775802 =
        some 2147483648 := by
      rw [hx.lowerBound_eq_some_iff, hx.offsetOf_eq (by omega), hx.offsetOf_eq (by omega), hlength]
      exact ⟨by decide, hbegin.trans_le (by decide), hnext.ge.trans_lt' (by decide)⟩
    have hback : pulledBackTop heights.sum v = 9223372036854775802 := by
      rw [hsum]
      decide
    have hvalue : (9223372036854775802 : Int).toNat = 9223372036854775802 := rfl
    have hstart := walkWindow_start hx 9223372036854775802 v.height
    rw [hvalue, hfirst, Option.getD_some, ← hback] at hstart
    exact hstart.trans (by decide)
  refine ⟨hsmall, hend, hsearched, hwalked, fun heq => ?_⟩
  rw [heq, hwalked] at hsearched
  cases hsearched

end WindowCalculator

end FlowWatch
