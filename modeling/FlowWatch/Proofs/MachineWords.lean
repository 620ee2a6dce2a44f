import Mathlib
import FlowWatch.Proofs.RowGeometry

/-!
# The windowing core on machine words

The functions of this module compute what the row metrics, the height index, the windows, the anchor
and the selection compute, but as a machine does.  Counts, heights and sums are words of 64 bits,
scroll offsets signed ones.  There is no answer where a sum, product or difference leaves its type,
where a row is looked up outside the index, where a height is too high for an offset, or where a
bound that has to hold does not.  Operations that saturate do so.  The tree of a height index is
taken to be updated and summed exactly; that a sum can be represented is checked.

Each function has the answer of its namesake on unbounded integers as long as the rows are together
no higher than the highest offset.
-/

namespace FlowWatch

namespace Machine

/-! ## Operations -/

/-- A result that has to be a word. -/
def word (n : Nat) : Option Nat := if n < 2 ^ 64 then some n else none

/-- The word nearest to a result. -/
def saturate (n : Nat) : Nat := min n (2 ^ 64 - 1)

/-- A difference that must not go below zero. -/
def sub (m n : Nat) : Option Nat := if n ≤ m then some (m - n) else none

/-- A quotient, whose divisor must not be zero. -/
def quotient (m n : Nat) : Option Nat := if n = 0 then none else some (m / n)

/-- A result that has to be an offset. -/
def offset (x : Int) : Option Int :=
  if Offset.lowest ≤ x ∧ x ≤ Offset.highest then some x else none

/-- An offset as a word; it must not be negative. -/
def ofOffset (x : Int) : Option Nat := if 0 ≤ x then some x.toNat else none

lemma word_eq_some {n : Nat} (h : n < 2 ^ 64) : word n = some n := if_pos h

lemma sub_eq_some {m n : Nat} (h : n ≤ m) : sub m n = some (m - n) := if_pos h

lemma quotient_eq_some {m n : Nat} (h : 0 < n) : quotient m n = some (m / n) := if_neg h.ne'

lemma offset_eq_some {x : Int} (hlo : Offset.lowest ≤ x) (hhi : x ≤ Offset.highest) :
    offset x = some x := if_pos ⟨hlo, hhi⟩

/-- A height up to the highest offset is one. -/
lemma offset_natCast_eq_some {n : Nat} (h : (n : Int) ≤ Offset.highest) :
    offset n = some (n : Int) :=
  offset_eq_some ((by decide : Offset.lowest ≤ 0).trans (Int.natCast_nonneg n)) h

lemma ofOffset_eq_some {x : Int} (h : 0 ≤ x) : ofOffset x = some x.toNat := if_pos h

/-- A height up to the highest offset is a word. -/
lemma lt_word_of_le_highest {n : Nat} (h : (n : Int) ≤ Offset.highest) : n < 2 ^ 64 := by
  rw [Offset.highest] at h
  omega

/-! ## Row metrics -/

/-- The height of the first `count` rows together. -/
def contentHeight (m : RowMetrics) (count : Nat) : Option Nat :=
  if m.isUniform then word (count * m.rowHeight.lines)
  else (m.heights count).foldlM (fun sum height => word (sum + height)) 0

/-- Summing words up from `sum` works if the whole sum is a word. -/
lemma foldlM_word_eq_some {heights : List Nat} {sum : Nat} (h : sum + heights.sum < 2 ^ 64) :
    heights.foldlM (fun sum height => word (sum + height)) sum = some (sum + heights.sum) := by
  induction heights generalizing sum with
  | nil => rfl
  | cons height heights ih =>
    rw [List.sum_cons, ← Nat.add_assoc] at h ⊢
    rw [List.foldlM_cons, word_eq_some (by omega)]
    exact ih h

lemma contentHeight_eq (m : RowMetrics) {count : Nat} (h : m.contentHeight count < 2 ^ 64) :
    contentHeight m count = some (m.contentHeight count) := by
  unfold contentHeight
  unfold RowMetrics.contentHeight at h ⊢
  split
  · rw [if_pos ‹_›] at h
    exact word_eq_some h
  · rw [if_neg ‹_›] at h
    have hsum : (m.heights count).foldr (· + ·) 0 = (m.heights count).sum := rfl
    rw [hsum] at h ⊢
    rw [foldlM_word_eq_some (by omega), Nat.zero_add]

/-! ## Height index -/

/-- The sum of the heights of the rows up to and including `index`, which has to be a row. -/
def prefixSum (x : HeightIndex) (index : Nat) : Option Nat := do
  guard (index < x.len)
  let sum ← offset (HeightIndex.sumFrom x.tree index)
  return (max sum 0).toNat

/-- The offset of the top edge of row `index`. -/
def offsetOf (x : HeightIndex) (index : Nat) : Option Nat :=
  if index = 0 then some 0 else do prefixSum x (← sub index 1)

/-- The sum of all heights. -/
def total (x : HeightIndex) : Option Nat :=
  if x.len = 0 then some 0 else do prefixSum x (← sub x.len 1)

/-- The height of row `index`, cut off at 32 bits. -/
def height (x : HeightIndex) (index : Nat) : Option Nat := do
  let height ← sub (← prefixSum x index) (← offsetOf x index)
  return min height (2 ^ 32 - 1)

/-- Gives row `index` another height. -/
def set (x : HeightIndex) (index newHeight : Nat) : Option HeightIndex := do
  let delta ← offset ((newHeight : Int) - (← height x index))
  return ⟨HeightIndex.addAt x.tree index delta⟩

/-- The least row between `left` and `right` whose prefix sum exceeds `value`, or `right`. -/
def searchAbove (x : HeightIndex) (value left right : Nat) : Option Nat :=
  if h : left < right then
    let mid := left + (right - left) / 2
    ((word mid).bind (prefixSum x)).bind fun sum =>
      if value < sum then searchAbove x value left mid
      else (word (mid + 1)).bind fun _ => searchAbove x value (mid + 1) right
  else some left
termination_by right - left

/-- The row whose span holds the offset `value`. -/
def lowerBound (x : HeightIndex) (value : Nat) : Option (Option Nat) := do
  let row ← searchAbove x value 0 x.len
  return if row < x.len then some row else none

/-- The index describes rows of these heights, which are together no higher than the highest
offset. -/
structure Describes (x : HeightIndex) (heights : List Nat) : Prop extends x.Indexes heights where
  /-- The rows can be counted by words. -/
  length_lt : heights.length < 2 ^ 64
  /-- Their offsets can be represented. -/
  sum_le : (heights.sum : Int) ≤ Offset.highest

namespace Describes

variable {x : HeightIndex} {heights : List Nat}

lemma prefixSum_eq (h : Describes x heights) {row : Nat} (hrow : row < heights.length) :
    prefixSum x row = some (x.prefixSum row) := by
  have hsum : (heights.take (row + 1)).sum ≤ heights.sum :=
    (heights.take_sublist _).sum_le_sum fun _ _ => Nat.zero_le _
  have hle : (((heights.take (row + 1)).sum : Nat) : Int) ≤ Offset.highest :=
    (Int.ofNat_le.mpr hsum).trans h.sum_le
  have hguard : (guard (row < x.len) : Option Unit) = some () :=
    if_pos (h.len_eq ▸ hrow)
  have hvalue : (max (((heights.take (row + 1)).sum : Nat) : Int) 0).toNat = x.prefixSum row := by
    rw [max_eq_left (Int.natCast_nonneg _), Int.toNat_natCast, h.toIndexes.prefixSum_eq hrow]
  rw [prefixSum, hguard, h.sumFrom_eq hrow, offset_natCast_eq_some hle]
  exact congrArg some hvalue

lemma offsetOf_eq (h : Describes x heights) {row : Nat} (hrow : row ≤ heights.length) :
    offsetOf x row = some (x.offsetOf row) := by
  cases row with
  | zero => rfl
  | succ row =>
    rw [offsetOf, if_neg (Nat.succ_ne_zero row), sub_eq_some (Nat.succ_pos row)]
    exact h.prefixSum_eq hrow

lemma height_eq (h : Describes x heights) {row : Nat} (hrow : row < heights.length)
    (hheight : heights[row] < 2 ^ 32) : height x row = some (x.height row) := by
  have hle : x.height row ≤ 2 ^ 32 - 1 := by
    rw [h.toIndexes.height_eq hrow]
    exact Nat.le_pred_of_lt hheight
  have hsub : x.offsetOf row ≤ x.prefixSum row := h.toIndexes.offsetOf_mono (Nat.le_succ row) hrow
  rw [height, h.prefixSum_eq hrow, h.offsetOf_eq hrow.le, Option.bind_eq_bind, Option.bind_some,
    Option.bind_some, sub_eq_some hsub]
  exact congrArg some (min_eq_left hle)

lemma set_eq (h : Describes x heights) {row : Nat} (hrow : row < heights.length)
    (hheight : heights[row] < 2 ^ 32) {newHeight : Nat} (hnew : newHeight < 2 ^ 32) :
    set x row newHeight = some (x.set row newHeight) := by
  have hdelta : Offset.lowest ≤ (newHeight : Int) - x.height row ∧
      (newHeight : Int) - x.height row ≤ Offset.highest := by
    rw [h.toIndexes.height_eq hrow]
    unfold Offset.lowest Offset.highest
    omega
  rw [set, h.height_eq hrow hheight, Option.bind_eq_bind, Option.bind_some,
    offset_eq_some hdelta.1 hdelta.2]
  rfl

lemma total_eq (h : Describes x heights) : total x = some x.total := by
  rw [← h.offsetOf_length, ← h.offsetOf_eq le_rfl, total, offsetOf, h.len_eq]

lemma searchAbove_eq (h : Describes x heights) (value left right : Nat)
    (hright : right ≤ heights.length) :
    searchAbove x value left right = some (x.searchAbove value left right) := by
  have hcount := h.length_lt
  have hprobe {row : Nat} (hrow : row < heights.length) :
      (word row).bind (prefixSum x) = some (x.prefixSum row) := by
    rw [word_eq_some (by omega)]
    exact h.prefixSum_eq hrow
  fun_induction HeightIndex.searchAbove x value left right with
  | case1 left right hlt mid hsum ih =>
    rw [searchAbove, dif_pos hlt]
    dsimp only
    rw [hprobe (by omega), Option.bind_some, if_pos hsum]
    exact ih (by omega)
  | case2 left right hlt mid hsum ih =>
    rw [searchAbove, dif_pos hlt]
    dsimp only
    rw [hprobe (by omega), Option.bind_some, if_neg hsum, word_eq_some (by omega)]
    exact ih hright
  | case3 left right hlt => rw [searchAbove, dif_neg hlt]

lemma lowerBound_eq (h : Describes x heights) (value : Nat) :
    lowerBound x value = some (x.lowerBound value) := by
  rw [lowerBound, h.searchAbove_eq value 0 x.len h.len_eq.le]
  rfl

end Describes

/-! ## Scroll offsets -/

/-- The highest offset at which a viewport of height `height` still shows no more than `content`
lines. -/
def maxScrollTop (content height : Nat) : Option Int := offset ((content - height : Nat) : Int)

/-- The offset nearest to `top` at which the viewport lies inside the content.  The bounds have to be
in order. -/
def clampScrollTop (top : Int) (content height : Nat) : Option Int := do
  let highest ← maxScrollTop content height
  guard (0 ≤ highest)
  return max 0 (min top highest)

/-- The viewport reaches the end of the content, but for `epsilon` lines. -/
def isAtBottom (v : Viewport) (content epsilon : Nat) : Option Bool := do
  let content ← offset content
  return decide (Offset.saturate (content - epsilon) ≤ v.bottom)

section Offsets

variable {content : Nat}

lemma maxScrollTop_eq (h : (content : Int) ≤ Offset.highest) (height : Nat) :
    maxScrollTop content height = some (FlowWatch.maxScrollTop content height) := by
  have hle : ((content - height : Nat) : Int) ≤ Offset.highest := by omega
  rw [maxScrollTop, offset_natCast_eq_some hle, FlowWatch.maxScrollTop, Offset.ofHeight_eq hle]

lemma clampScrollTop_eq (h : (content : Int) ≤ Offset.highest) (top : Int) (height : Nat) :
    clampScrollTop top content height = some (FlowWatch.clampScrollTop top content height) := by
  have hguard : (guard (0 ≤ FlowWatch.maxScrollTop content height) : Option Unit) = some () :=
    if_pos (maxScrollTop_nonneg ..)
  rw [clampScrollTop, maxScrollTop_eq h, Option.bind_eq_bind, Option.bind_some, hguard]
  rfl

lemma isAtBottom_eq (h : (content : Int) ≤ Offset.highest) (v : Viewport) (epsilon : Nat) :
    isAtBottom v content epsilon = some (FlowWatch.isAtBottom v content epsilon) := by
  rw [isAtBottom, offset_natCast_eq_some h, FlowWatch.isAtBottom, Offset.ofHeight_eq h]
  rfl

end Offsets

/-! ## Windows -/

/-- The largest even number up to `index`. -/
def alignToStripe (index : Nat) : Option Nat := sub index (index % 2)

/-- The window of `count` rows of one height. -/
def uniform (rule : WindowCalculator) (count : Nat) (v : Viewport) : Option Window := do
  let rowHeight := rule.rowHeight.lines
  let content ← word (count * rowHeight)
  let top ← (clampScrollTop v.top content v.height).bind ofOffset
  let first ← quotient top rowHeight
  let start ← alignToStripe (first - rule.overscan)
  let rows := WindowCalculator.rowsCovering v.height rowHeight
  let stop := min count (saturate (saturate (start + rows) + saturate (rule.overscan * 2)))
  let paddingTop ← word (start * rowHeight)
  let below ← sub count stop
  let paddingBottom ← word (below * rowHeight)
  return { start, stop, paddingTop, paddingBottom }

/-- The top at which measured rows are searched. -/
def measuredTop (heights : HeightIndex) (v : Viewport) : Option Int := do
  let total ← (total heights).bind fun total => offset total
  if v.top > 0 ∧ total < v.bottom then
    let pulled ← offset (total - v.height)
    return max 0 pulled
  else return v.top

/-- The row after the last one of a window of measured rows that starts at `start`. -/
def measuredStop (heights : HeightIndex) (start : Nat) (bottom : Int) : Option Nat :=
  if bottom < 0 then some start
  else (lowerBound heights bottom.toNat).bind fun
    | some row => word (row + 1)
    | none => some heights.len

/-- The window of measured rows for a viewport at `top`. -/
def measuredAt (heights : HeightIndex) (top : Int) (height : Nat) : Option Window := do
  let last ← sub heights.len 1
  let start ← alignToStripe ((← lowerBound heights top.toNat).getD last)
  let stop ← measuredStop heights start (Offset.saturate (top + height))
  let paddingTop ← offsetOf heights start
  let paddingBottom ← sub (← total heights) (← offsetOf heights stop)
  return { start, stop, paddingTop, paddingBottom }

/-- A viewport without height shows nothing, at the row where its clamped top lies. -/
def collapsed (rule : WindowCalculator) (count : Nat) (v : Viewport) :
    Option HeightIndex → Option Window
  | some heights => do
    let content ← total heights
    let top ← (clampScrollTop v.top content 0).bind ofOffset
    let row := (← lowerBound heights top).getD count
    let offset ← offsetOf heights row
    let paddingBottom ← sub content offset
    return { start := row, stop := row, paddingTop := offset, paddingBottom }
  | none => do
    let content ← word (count * rule.rowHeight.lines)
    let top ← (clampScrollTop v.top content 0).bind ofOffset
    let row := min (← quotient top rule.rowHeight.lines) count
    let offset ← word (row * rule.rowHeight.lines)
    let paddingBottom ← sub content offset
    return { start := row, stop := row, paddingTop := offset, paddingBottom }

/-- The window of `count` rows. -/
def compute (rule : WindowCalculator) (count : Nat) (v : Viewport) (heights : Option HeightIndex) :
    Option Window :=
  if count = 0 then some .empty
  else
    let matching := WindowCalculator.matching count heights
    if v.height = 0 then collapsed rule count v matching
    else match matching with
      | some index => (measuredTop index v).bind fun top => measuredAt index top v.height
      | none => uniform rule count v

section Windows

variable {rule : WindowCalculator} {count : Nat} {x : HeightIndex} {heights : List Nat}

lemma alignToStripe_eq (index : Nat) : alignToStripe index = some (FlowWatch.alignToStripe index) :=
  sub_eq_some (Nat.mod_le index 2)

/-- A clamped offset is not negative. -/
lemma clampScrollTop_word_eq {content : Nat} (h : (content : Int) ≤ Offset.highest) (top : Int)
    (height : Nat) : (clampScrollTop top content height).bind ofOffset =
      some (FlowWatch.clampScrollTop top content height).toNat := by
  rw [clampScrollTop_eq h, Option.bind_some, ofOffset_eq_some (clampScrollTop_nonneg ..)]

lemma uniform_eq (h : ((count * rule.rowHeight.lines : Nat) : Int) ≤ Offset.highest)
    (v : Viewport) : uniform rule count v = some (rule.uniform count v) := by
  have hcontent := lt_word_of_le_highest h
  have hcuts := rule.uniform_cuts count v
  have hstart_le := hcuts.start_le_stop
  have hstop_le : (rule.uniform count v).stop ≤ count := by simpa using hcuts.stop_le
  have hcount : count ≤ count * rule.rowHeight.lines := Nat.le_mul_of_pos_right _ rule.rowHeight.pos
  have hstart_mul := Nat.mul_le_mul_right rule.rowHeight.lines (hstart_le.trans hstop_le)
  have hbelow_mul := Nat.mul_le_mul_right rule.rowHeight.lines
    (Nat.sub_le count (rule.uniform count v).stop)
  -- a sum that saturates is past the last row in any case
  have hstop : min count (saturate (saturate ((rule.uniform count v).start +
      WindowCalculator.rowsCovering v.height rule.rowHeight.lines) + saturate (rule.overscan * 2))) =
        (rule.uniform count v).stop := by
    have hsum : (rule.uniform count v).stop = min count ((rule.uniform count v).start +
      WindowCalculator.rowsCovering v.height rule.rowHeight.lines + rule.overscan * 2) := rfl
    rw [hsum]
    unfold saturate
    omega
  have hfirst : FlowWatch.alignToStripe ((FlowWatch.clampScrollTop v.top
      (count * rule.rowHeight.lines) v.height).toNat / rule.rowHeight.lines - rule.overscan) =
        (rule.uniform count v).start := rfl
  simp only [uniform, word_eq_some hcontent, clampScrollTop_word_eq h,
    quotient_eq_some rule.rowHeight.pos, alignToStripe_eq, hfirst, hstop, sub_eq_some hstop_le,
    word_eq_some (hstart_mul.trans_lt hcontent), word_eq_some (hbelow_mul.trans_lt hcontent),
    Option.bind_eq_bind, Option.bind_some]
  rfl

lemma measuredTop_eq (h : Describes x heights) (v : Viewport)
    (hheight : (v.height : Int) ≤ Offset.highest) :
    measuredTop x v = some (WindowCalculator.measuredTop x v) := by
  have htotal : (x.total : Int) ≤ Offset.highest := h.toIndexes.total_eq ▸ h.sum_le
  have hpulled : Offset.lowest ≤ (x.total : Int) - v.height ∧
      (x.total : Int) - v.height ≤ Offset.highest := by
    unfold Offset.lowest Offset.highest at *
    omega
  simp only [measuredTop, h.total_eq, offset_natCast_eq_some htotal,
    offset_eq_some hpulled.1 hpulled.2, Option.bind_eq_bind, Option.bind_some]
  rw [WindowCalculator.measuredTop, Offset.ofHeight_eq htotal]
  split <;> rfl

lemma measuredAt_eq (h : Describes x heights) (hrows : 0 < heights.length) {top : Int}
    (htop : top ≤ Offset.highest) (height : Nat) :
    measuredAt x top height = some (WindowCalculator.measuredAt x top height) := by
  have hcuts := WindowCalculator.measuredAt_cuts h.toIndexes hrows htop height
  have hcount := h.length_lt
  have hlen := h.len_eq
  set w := WindowCalculator.measuredAt x top height
  have hstart : FlowWatch.alignToStripe ((x.lowerBound top.toNat).getD (x.len - 1)) = w.start := rfl
  have hstop : measuredStop x w.start (Offset.saturate (top + height)) = some w.stop := by
    have hdef : w.stop = if Offset.saturate (top + height) < 0 then w.start
      else match x.lowerBound (Offset.saturate (top + height)).toNat with
        | some row => row + 1
        | none => x.len := rfl
    rw [measuredStop, hdef, h.lowerBound_eq, Option.bind_some]
    split
    · rfl
    · cases hrow : x.lowerBound (Offset.saturate (top + height)).toNat with
      | none => rfl
      | some row =>
        have hlt := (h.lowerBound_eq_some_iff.mp hrow).1
        exact word_eq_some (by omega)
  have hlast : x.offsetOf w.stop ≤ x.total := h.toIndexes.offsetOf_le_total hcuts.stop_le
  simp only [measuredAt, h.lowerBound_eq, sub_eq_some (show 1 ≤ x.len by omega), alignToStripe_eq,
    hstart, hstop, h.total_eq, h.offsetOf_eq hcuts.stop_le,
    h.offsetOf_eq (hcuts.start_le_stop.trans hcuts.stop_le), sub_eq_some hlast,
    Option.bind_eq_bind, Option.bind_some]
  rfl

lemma collapsed_none_eq (h : ((count * rule.rowHeight.lines : Nat) : Int) ≤ Offset.highest)
    (v : Viewport) : collapsed rule count v none = some (rule.collapsed count v none) := by
  have hcontent := lt_word_of_le_highest h
  set row := min ((FlowWatch.clampScrollTop v.top (count * rule.rowHeight.lines) 0).toNat /
    rule.rowHeight.lines) count
  have hoffset : row * rule.rowHeight.lines ≤ count * rule.rowHeight.lines :=
    Nat.mul_le_mul_right _ (min_le_right ..)
  simp only [collapsed, word_eq_some hcontent, clampScrollTop_word_eq h,
    quotient_eq_some rule.rowHeight.pos, Option.bind_eq_bind, Option.bind_some]
  rw [word_eq_some (hoffset.trans_lt hcontent), Option.bind_some, sub_eq_some hoffset]
  rfl

lemma collapsed_some_eq (h : Describes x heights) (v : Viewport) :
    collapsed rule heights.length v (some x) = some (rule.collapsed heights.length v (some x)) := by
  have htotal : (x.total : Int) ≤ Offset.highest := h.toIndexes.total_eq ▸ h.sum_le
  have hrow : (x.lowerBound (FlowWatch.clampScrollTop v.top x.total 0).toNat).getD heights.length ≤
      heights.length :=
    (rule.collapsed_some_cuts h.toIndexes v).stop_le
  simp only [collapsed, h.total_eq, clampScrollTop_word_eq htotal, h.lowerBound_eq,
    Option.bind_eq_bind, Option.bind_some]
  rw [h.offsetOf_eq hrow, Option.bind_some, sub_eq_some (h.toIndexes.offsetOf_le_total hrow)]
  rfl

/-- The window of uniform rows, if they are together no higher than the highest offset. -/
lemma compute_none_eq (h : ((count * rule.rowHeight.lines : Nat) : Int) ≤ Offset.highest)
    (v : Viewport) : compute rule count v none = some (rule.compute count v none) := by
  rw [compute, WindowCalculator.compute]
  split
  · rfl
  · split
    · exact collapsed_none_eq h v
    · exact uniform_eq h v

/-- The window of measured rows, if the index describes them. -/
lemma compute_some_eq (rule : WindowCalculator) (h : Describes x heights) {v : Viewport}
    (htop : v.top ≤ Offset.highest) (hheight : (v.height : Int) ≤ Offset.highest) :
    compute rule heights.length v (some x) = some (rule.compute heights.length v (some x)) := by
  rw [compute, WindowCalculator.compute, WindowCalculator.matching_of_len h.len_eq]
  split
  · rfl
  · rename_i hrows
    dsimp only
    split
    · exact collapsed_some_eq h v
    · rw [measuredTop_eq h v hheight]
      exact measuredAt_eq h (Nat.pos_of_ne_zero hrows)
        (WindowCalculator.measuredTop_le_highest htop) v.height

end Windows

/-! ## Selection -/

/-- The least scroll after which a row is shown fully below a header. -/
def scrollAdjustmentForRow (rowTop rowHeight headerHeight : Nat) (v : Viewport) :
    Option (Option Int) := do
  let top ← offset rowTop
  let bottom := Offset.saturate (Offset.saturate (top + headerHeight) + rowHeight)
  if top < v.top then return some top
  else if bottom > v.bottom then (offset (bottom - v.height)).map some
  else return none

/-- Selects the flow `shift` rows away from the one selected last. -/
def selectRelative (s : Selection) (view : OrderedView) (shift : Int) : Option Selection :=
  if view.isEmpty then some s.clear
  else do
    let last ← sub view.len 1
    let target := match s.last.bind view.indexOf with
      | some index => min (saturate (index + shift).toNat) last
      | none => if shift < 0 then 0 else last
    return match view.idAt target with
      | some id => s.select [id]
      | none => s.clear

/-- The step of a follower; `span` gives the offset and height of a row. -/
def followSelection (f : SelectionFollower) (selection : Selection) (view : OrderedView)
    (v : Viewport) (span : Nat → Option (Nat × Nat)) :
    Option (SelectionFollower × Option Int) :=
  if selection.only = f.followed then some (f, none)
  else match selection.only.bind view.indexOf with
    | some index => do
      let (top, height) ← span index
      let adjustment ← scrollAdjustmentForRow top height f.headerHeight v
      return ({ f with followed := selection.only }, adjustment)
    | none => some ({ f with followed := selection.only }, none)

lemma scrollAdjustmentForRow_eq {rowTop : Nat} (htop : (rowTop : Int) ≤ Offset.highest)
    (rowHeight headerHeight : Nat) {v : Viewport} (hheight : (v.height : Int) ≤ Offset.highest) :
    scrollAdjustmentForRow rowTop rowHeight headerHeight v =
      some (FlowWatch.scrollAdjustmentForRow rowTop rowHeight headerHeight v) := by
  rw [FlowWatch.scrollAdjustmentForRow, Offset.ofHeight_eq htop]
  simp only [scrollAdjustmentForRow, offset_natCast_eq_some htop, Option.bind_eq_bind,
    Option.bind_some]
  set bottom := Offset.saturate (Offset.saturate ((rowTop : Int) + headerHeight) + rowHeight)
    with hbottom
  have hpulled : Offset.lowest ≤ bottom - v.height ∧ bottom - v.height ≤ Offset.highest := by
    unfold Offset.saturate Offset.lowest Offset.highest at *
    omega
  split
  · rfl
  · split
    · rw [offset_eq_some hpulled.1 hpulled.2]
      rfl
    · rfl

lemma selectRelative_eq (s : Selection) {view : OrderedView} (hlen : view.len < 2 ^ 64)
    (shift : Int) : selectRelative s view shift = some (s.selectRelative view shift) := by
  rw [selectRelative, Selection.selectRelative]
  split
  · rfl
  · rename_i hrows
    have hpos : 0 < view.len := by
      rw [OrderedView.isEmpty, Array.isEmpty_iff] at hrows
      exact Array.size_pos_iff.mpr hrows
    -- the last row is a word, so that an index that saturates is cut off there in any case
    have hshifted (index : Nat) : min (saturate (index + shift).toNat) (view.len - 1) =
        Selection.shifted index shift (view.len - 1) := by
      unfold saturate Selection.shifted
      omega
    simp only [sub_eq_some (show 1 ≤ view.len from hpos), hshifted, Option.bind_eq_bind,
      Option.bind_some]
    rfl

lemma followSelection_eq (f : SelectionFollower) (selection : Selection) {view : OrderedView}
    {v : Viewport} (hheight : (v.height : Int) ≤ Offset.highest) {span : Nat → Option (Nat × Nat)}
    {exact : Nat → Nat × Nat} (hspan : ∀ id index, view.indexOf id = some index →
      span index = some (exact index) ∧ ((exact index).1 : Int) ≤ Offset.highest) :
    followSelection f selection view v span = some (f.follow selection view v exact) := by
  rw [followSelection, SelectionFollower.follow]
  split
  · rfl
  · cases honly : selection.only with
    | none => rfl
    | some id =>
      rw [Option.bind_some]
      cases hrow : view.indexOf id with
      | none => rfl
      | some index =>
        obtain ⟨hindex, htop⟩ := hspan id index hrow
        dsimp only
        rw [hindex, Option.bind_eq_bind, Option.bind_some,
          scrollAdjustmentForRow_eq htop _ _ hheight]
        rfl

end Machine

end FlowWatch
