import Mathlib
import FlowWatch.Proofs.DerivedView
import FlowWatch.Proofs.RowGeometry
import FlowWatch.Proofs.WindowCoverage

/-!
# Which visible rows a table draws

A row is visible if it meets the lines of the viewport below the header; a table draws the rows of
its committed window.  The two differ in one place that matters.  A window of uniform rows is counted
from its start, and the start is moved up to an even row.  With one row kept beyond each edge, a
first visible row with an even index above zero leaves no row below: the window ends after as many
rows as cover the height, and a top that is not a multiple of the row height shows a part of the next
one.  Any further row kept beyond the edges closes the gap.

Measured rows are searched for the bottom edge itself, so none of them is left out that begins at an
offset which can be represented.
-/

namespace FlowWatch

namespace WindowCalculator

/-! ## Uniform rows -/

/-- With one row kept beyond each edge, `i` is the row after those that cover the height, counted
from a first visible row that is even and not the first of all. -/
def EndsAbove (rule : WindowCalculator) (v : Viewport) (i : Nat) : Prop :=
  let first := v.top.toNat / rule.rowHeight.lines
  rule.overscan = 1 ∧ first ≠ 0 ∧ first % 2 = 0 ∧
    i = first + rowsCovering v.height rule.rowHeight.lines

/-- A row that begins above the bottom edge comes at most one after the rows that cover the height,
counted from the first visible one. -/
lemma le_div_add_rowsCovering {top height rowHeight i : Nat} (hpos : 0 < rowHeight)
    (hheight : 0 < height) (h : i * rowHeight < top + height) :
    i ≤ top / rowHeight + rowsCovering height rowHeight := by
  cases i with
  | zero => exact Nat.zero_le _
  | succ before => exact lt_div_add_rowsCovering hpos hheight (Or.inr h.le)

/-- Counted from a start that is moved up to an even row, the rows end above the row `i`, which is
at most one after those that cover the height, only if `i` is that row, the first row is even and not
the first of all, and one row is kept. -/
lemma alignToStripe_counts_iff {first rows kept i : Nat} (hkept : 1 ≤ kept) (hfirst : first ≤ i)
    (hlast : i ≤ first + rows) :
    (alignToStripe (first - kept) ≤ i ∧ i < alignToStripe (first - kept) + rows + kept * 2) ↔
      ¬ (kept = 1 ∧ first ≠ 0 ∧ first % 2 = 0 ∧ i = first + rows) := by
  unfold alignToStripe
  omega

/-- A uniform row that meets the viewport is covered, unless the window ends above it. -/
lemma uniform_contains_iff_of_meets (rule : WindowCalculator) {count i : Nat} {v : Viewport}
    (hover : 1 ≤ rule.overscan) (hi : i < count) (hheight : 0 < v.height) (hnonneg : 0 ≤ v.top)
    (hhighest : v.top ≤ Offset.highest) (hend : v.top < ((i + 1) * rule.rowHeight.lines : Nat))
    (hbegin : ((i * rule.rowHeight.lines : Nat) : Int) < v.top + v.height) :
    (rule.uniform count v).contains i = true ↔ ¬ rule.EndsAbove v i := by
  have hpos := rule.rowHeight.pos
  have hsearched := rule.uniformTop_eq_min count hnonneg hhighest
  have hrows : (i + 1) * rule.rowHeight.lines ≤ count * rule.rowHeight.lines :=
    Nat.mul_le_mul_right _ hi
  rcases le_total v.top.toNat (count * rule.rowHeight.lines - v.height) with hin | hpast
  · -- the top is searched as it is, and the rows are counted from it
    rw [min_eq_left hin] at hsearched
    have hfirst : v.top.toNat / rule.rowHeight.lines < i + 1 :=
      (Nat.div_lt_iff_lt_mul hpos).mpr (by omega)
    have hlast : i ≤ v.top.toNat / rule.rowHeight.lines +
        rowsCovering v.height rule.rowHeight.lines :=
      le_div_add_rowsCovering hpos hheight (by omega)
    rw [uniform_contains_iff, hsearched, EndsAbove,
      ← alignToStripe_counts_iff hover (Nat.le_of_lt_succ hfirst) hlast]
    exact ⟨fun h => ⟨h.1, h.2.2⟩, fun h => ⟨h.1, hi, h.2⟩⟩
  · -- the top is moved up to where the last row ends at the bottom edge
    rw [min_eq_right hpast] at hsearched
    have hstop : i < rule.uniformTop count v / rule.rowHeight.lines +
        rowsCovering v.height rule.rowHeight.lines :=
      lt_div_add_rowsCovering hpos hheight (Or.inr (by omega))
    have hmoved : rule.uniformTop count v / rule.rowHeight.lines ≤
        v.top.toNat / rule.rowHeight.lines :=
      Nat.div_le_div_right (by omega)
    refine iff_of_true (rule.uniform_contains_of_top hover hi (by omega) hstop) ?_
    rintro ⟨-, -, -, heq⟩
    omega

end WindowCalculator

namespace Controller

/-! ## The rows of a table -/

/-- The row `i` meets the lines of the viewport below the header. -/
def Shows (c : Controller) (v : Viewport) (i : Nat) : Prop :=
  ∃ line : Int, ((c.rowOffset i : Int) ≤ line ∧ line < c.rowOffset i + c.rowHeightOf i) ∧
    v.top ≤ line ∧ line < v.top + v.height - c.headerHeight

/-- The window leaves out the visible row `i`: it ends above a uniform row, and a measured row
begins past the highest offset. -/
def Omits (c : Controller) (v : Viewport) (i : Nat) : Prop :=
  match c.heights with
  | none => c.rule.EndsAbove v i
  | some _ => Offset.highest < c.rowOffset i

variable {settings : TableSettings} {told : Contents} {c : Controller} {v : Viewport} {i : Nat}

/-- The committed window of a coherent table holds the visible rows that it does not omit. -/
lemma window_contains_iff_of_shows (h : Coherent settings told c) (hv : c.viewport = some v)
    (hover : 1 ≤ settings.overscan) (hi : i < c.view.len) (hshows : c.Shows v i) :
    c.window.contains i = true ↔ ¬ c.Omits v i := by
  obtain ⟨line, ⟨hbegin, hend⟩, htop, hbottom⟩ := hshows
  obtain ⟨hnonneg, -⟩ := h.top_mem v hv
  have hheight : 0 < v.height := by omega
  rw [h.window_eq hv]
  cases hheights : c.heights with
  | none =>
    rw [h.rowOffset_uniform hheights] at hbegin hend
    rw [h.rowHeightOf_uniform hheights] at hend
    have hsucc := Nat.succ_mul i c.rule.rowHeight.lines
    rw [Omits, hheights, c.rule.compute_none (by omega : 0 < c.view.len) hheight]
    apply c.rule.uniform_contains_iff_of_meets _ hi hheight hnonneg (h.top_le_highest hv)
    · rw [hsucc]
      omega
    · omega
    · rwa [h.rule_eq]
  | some x =>
    have hx := h.indexes hheights
    have hlength : (c.metrics.heights c.view.len).length = c.view.len := RowMetrics.length_heights ..
    have hsucc := h.offsetOf_succ_measured hheights hi
    have hrow : 0 < c.rowHeightOf i := c.metrics.heightOf_pos i
    have hoffset := h.rowOffset_measured hheights hi.le
    rw [Omits, hheights, hoffset, not_lt, ← hlength, c.rule.compute_some hx (by omega) hheight]
    constructor
    · exact WindowCalculator.offsetOf_le_highest_of_contains hx (by omega)
    · intro hfit
      apply WindowCalculator.measured_contains_of_meets hx (by omega) (by omega) hfit
      · rw [hsucc]
        omega
      · omega

/-- **Visible rows.**  After any sequence of calls, with at least one row kept beyond each edge, a
visible row lies in the committed window, and so among the records that are drawn, exactly if the
window does not omit it. -/
theorem visible_row_in_window_iff (settings : TableSettings) (calls : List Call) (v : Viewport)
    (i : Nat) (hover : 1 ≤ settings.overscan)
    (hv : ((ofSettings settings).run calls).viewport = some v)
    (hi : i < ((ofSettings settings).run calls).view.len)
    (hshows : ((ofSettings settings).run calls).Shows v i) :
    let c := (ofSettings settings).run calls
    (c.window.contains i = true ↔ ¬ c.Omits v i) ∧
      ((∃ flow, (i, flow) ∈ c.visibleRecords (Contents.ofCalls calls).flows) ↔
        ¬ c.Omits v i) := by
  intro c
  have h : Coherent settings (.ofCalls calls) c := coherent_run settings calls
  have hwindow := window_contains_iff_of_shows h hv hover hi hshows
  refine ⟨hwindow, ?_⟩
  rw [← hwindow, Window.contains_iff, visibleRecords, h.view_eq]
  apply OrderedView.exists_mem_records_derive
  rwa [← h.view_eq]

/-- Rows of three lines below a top that cuts the third of them: the fourth is drawn. -/
theorem visible_row_in_window_below_cut_row :
    let c := (ofSettings ⟨⟨3, by decide⟩, 0, 1, 0⟩).run
      [.resize 6, .dataChanged (Contents.connections 10), .scroll 7]
    (1 ≤ 1 ∧ c.viewport = some ⟨7, 6⟩ ∧ 3 < c.view.len ∧ c.Shows ⟨7, 6⟩ 3) ∧
      ¬ c.Omits ⟨7, 6⟩ 3 ∧ c.window.contains 3 = true := by
  intro c
  have hv : c.viewport = some ⟨7, 6⟩ := by decide +kernel
  have hi : 3 < c.view.len := by decide +kernel
  have hshows : c.Shows ⟨7, 6⟩ 3 := ⟨9, by decide +kernel, by decide +kernel⟩
  have hcontains : c.window.contains 3 = true := by decide +kernel
  obtain ⟨hwindow, -⟩ := visible_row_in_window_iff ⟨⟨3, by decide⟩, 0, 1, 0⟩
    [.resize 6, .dataChanged (Contents.connections 10), .scroll 7] ⟨7, 6⟩ 3 le_rfl hv hi hshows
  exact ⟨⟨le_rfl, hv, hi, hshows⟩, hwindow.mp hcontains, hcontains⟩

/-- The row after it begins on the last line of the viewport, and is left out. -/
theorem visible_row_omitted :
    let c := (ofSettings ⟨⟨3, by decide⟩, 0, 1, 0⟩).run
      [.resize 6, .dataChanged (Contents.connections 10), .scroll 7]
    c.viewport = some ⟨7, 6⟩ ∧ 4 < c.view.len ∧ c.Shows ⟨7, 6⟩ 4 ∧
      c.window.contains 4 = false := by
  refine ⟨by decide +kernel, by decide +kernel, ?_, by decide +kernel⟩
  exact ⟨12, by decide +kernel, by decide +kernel⟩

end Controller

end FlowWatch
