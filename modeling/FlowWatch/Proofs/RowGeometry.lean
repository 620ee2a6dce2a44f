import Mathlib
import FlowWatch.Proofs.Coherence
import FlowWatch.Proofs.WindowShape

/-!
# Where the rows of a table lie

The offsets and heights that a table reports for its rows.  Without measured rows they are multiples
of one height.  With measured rows the offsets come from the height index and the heights from the
overrides; the two agree because the index of an arranged table is built from those overrides.  The
committed window is a range of these rows (`Coherent.window_bounds`).

The rows lie end to end from the top of the content to its end, so every offset inside of it lies in
the span of one row, which is the one found there (`offsets_resolve_to_spans`).  For uniform rows
this is a division, for measured rows the search of the height index.
-/

namespace FlowWatch

namespace RowMetrics

variable {m : RowMetrics} {count : Nat}

/-- There is no height index exactly if no row has been measured. -/
lemma heightIndex_eq_none_iff : m.heightIndex count = none ↔ m.isUniform = true := by
  unfold heightIndex
  split <;> simp_all

/-- A height index describes the effective heights of its rows. -/
lemma indexes_of_heightIndex {x : HeightIndex} (h : m.heightIndex count = some x) :
    x.Indexes (m.heights count) := by
  unfold heightIndex at h
  split at h
  · cases h
  · cases h
    exact HeightIndex.indexes_ofHeights _

/-- Every row has the uniform height, whether it has been measured or not. -/
def IsLevel (m : RowMetrics) : Prop := ∀ i, m.heightOf i = m.rowHeight.lines

/-- If no row has been measured, every row has the uniform height. -/
lemma isLevel_of_isUniform (h : m.isUniform = true) : m.IsLevel := by
  have hempty : m.overrides = #[] := Array.isEmpty_iff.mp h
  simp [IsLevel, heightOf, hempty]

/-- The heights of level rows. -/
lemma IsLevel.heights_eq (h : m.IsLevel) (count : Nat) :
    m.heights count = List.replicate count m.rowHeight.lines := by
  rw [heights, List.map_congr_left fun i _ => h i, List.map_const', List.length_range]

/-- The rows are together as high as the sum of their heights. -/
lemma contentHeight_eq_sum (m : RowMetrics) (count : Nat) :
    m.contentHeight count = (m.heights count).sum := by
  unfold contentHeight
  split
  · rename_i huniform
    rw [(isLevel_of_isUniform huniform).heights_eq, List.sum_replicate, smul_eq_mul]
  · rfl

/-- More rows are together at least as high. -/
lemma sum_heights_mono (m : RowMetrics) {few many : Nat} (h : few ≤ many) :
    (m.heights few).sum ≤ (m.heights many).sum :=
  ((List.range_sublist.mpr h).map m.heightOf).sum_le_sum fun _ _ => Nat.zero_le _

end RowMetrics

namespace Controller

namespace Arranged

variable {settings : TableSettings} {told : Contents} {c : Controller}

/-- Windows and rows go by the same uniform height. -/
lemma rowHeight_eq (h : Arranged settings told c) : c.metrics.rowHeight = c.rule.rowHeight := by
  rw [h.metrics_eq, h.rule_eq]

/-! ## Uniform rows -/

lemma isUniform (h : Arranged settings told c) (hnone : c.heights = none) :
    c.metrics.isUniform = true := by
  rw [h.heights_eq] at hnone
  exact RowMetrics.heightIndex_eq_none_iff.mp hnone

/-- Uniform rows begin at the multiples of their height. -/
lemma rowOffset_uniform (h : Arranged settings told c) (hnone : c.heights = none) (i : Nat) :
    c.rowOffset i = i * c.rule.rowHeight.lines := by
  rw [rowOffset, rowSpan, hnone, h.rowHeight_eq]

/-- Uniform rows have one height. -/
lemma rowHeightOf_uniform (h : Arranged settings told c) (hnone : c.heights = none) (i : Nat) :
    c.rowHeightOf i = c.rule.rowHeight.lines := by
  rw [rowHeightOf, RowMetrics.isLevel_of_isUniform (h.isUniform hnone), h.rowHeight_eq]

/-- The content of a table with uniform rows. -/
lemma contentHeight_uniform (h : Arranged settings told c) (hnone : c.heights = none) :
    c.contentHeight = c.view.len * c.rule.rowHeight.lines := by
  rw [contentHeight, hnone, ← h.rowHeight_eq]
  exact if_pos (h.isUniform hnone)

/-! ## Measured rows -/

variable {x : HeightIndex}

/-- The height index of a table describes the rows of its view. -/
lemma indexes (h : Arranged settings told c) (hx : c.heights = some x) :
    x.Indexes (c.metrics.heights c.view.len) := by
  rw [h.heights_eq] at hx
  exact RowMetrics.indexes_of_heightIndex hx

/-- Measured rows begin where the height index says. -/
lemma rowOffset_measured (h : Arranged settings told c) (hx : c.heights = some x) {i : Nat}
    (hi : i ≤ c.view.len) : c.rowOffset i = x.offsetOf i := by
  have hlen : x.len = c.view.len := by rw [(h.indexes hx).len_eq, RowMetrics.length_heights]
  rw [rowOffset, rowSpan, hx]
  simp only [hlen, min_eq_left hi]

/-- Measured rows end where the next one begins. -/
lemma offsetOf_succ_measured (h : Arranged settings told c) (hx : c.heights = some x) {i : Nat}
    (hi : i < c.view.len) : x.offsetOf (i + 1) = c.rowOffset i + c.rowHeightOf i := by
  have hi' : i < (c.metrics.heights c.view.len).length := by rwa [RowMetrics.length_heights]
  rw [(h.indexes hx).offsetOf_succ hi', h.rowOffset_measured hx hi.le]
  simp [RowMetrics.heights, rowHeightOf]

/-- The content of a table with measured rows. -/
lemma contentHeight_measured (hx : c.heights = some x) : c.contentHeight = x.total := by
  rw [contentHeight, hx]

/-! ## All rows -/

/-- A row spans its height from its offset. -/
lemma rowSpan_eq (h : Arranged settings told c) (i : Nat) :
    c.rowSpan i = (c.rowOffset i, c.rowHeightOf i) := by
  cases hheights : c.heights with
  | none =>
    rw [h.rowHeightOf_uniform hheights, h.rowOffset_uniform hheights, rowSpan, hheights,
      h.rowHeight_eq]
  | some x => rw [rowOffset, rowSpan, hheights, rowHeightOf]

/-- The content is as high as its rows together. -/
lemma contentHeight_eq_sum (h : Arranged settings told c) :
    c.contentHeight = (c.metrics.heights c.view.len).sum := by
  cases hheights : c.heights with
  | none =>
    rw [contentHeight, hheights]
    exact c.metrics.contentHeight_eq_sum c.view.len
  | some x => rw [contentHeight_measured hheights, (h.indexes hheights).total_eq]

/-- The first row begins at the top of the content. -/
lemma rowOffset_zero (h : Arranged settings told c) : c.rowOffset 0 = 0 := by
  cases hheights : c.heights with
  | none => rw [h.rowOffset_uniform hheights, Nat.zero_mul]
  | some x => rw [h.rowOffset_measured hheights (Nat.zero_le _), HeightIndex.offsetOf]

/-- The next row begins where a row ends. -/
lemma rowOffset_succ (h : Arranged settings told c) {i : Nat} (hi : i < c.view.len) :
    c.rowOffset (i + 1) = c.rowOffset i + c.rowHeightOf i := by
  cases hheights : c.heights with
  | none =>
    rw [h.rowHeightOf_uniform hheights, h.rowOffset_uniform hheights,
      h.rowOffset_uniform hheights, Nat.succ_mul]
  | some x => rw [h.rowOffset_measured hheights hi, h.offsetOf_succ_measured hheights hi]

/-- The offset after the last row is the end of the content. -/
lemma rowOffset_len (h : Arranged settings told c) :
    c.rowOffset c.view.len = c.contentHeight := by
  cases hheights : c.heights with
  | none => rw [h.rowOffset_uniform hheights, h.contentHeight_uniform hheights]
  | some x =>
    have hend := (h.indexes hheights).offsetOf_length
    rw [RowMetrics.length_heights] at hend
    rw [h.rowOffset_measured hheights le_rfl, contentHeight_measured hheights, hend]

/-- The row found at an offset is the one whose span holds it. -/
lemma indexAtOffset_eq_some_iff (h : Arranged settings told c) {offset i : Nat} :
    c.indexAtOffset offset = some i ↔
      i < c.view.len ∧ c.rowOffset i ≤ offset ∧ offset < c.rowOffset i + c.rowHeightOf i := by
  cases hheights : c.heights with
  | none =>
    have hpos := c.rule.rowHeight.pos
    have hspan : offset / c.rule.rowHeight.lines = i ↔ i * c.rule.rowHeight.lines ≤ offset ∧
        offset < i * c.rule.rowHeight.lines + c.rule.rowHeight.lines := by
      rw [Nat.div_eq_iff hpos]
      omega
    rw [indexAtOffset, hheights, h.rowHeightOf_uniform hheights, h.rowOffset_uniform hheights,
      h.rowHeight_eq, ← hspan]
    simp only [Option.ite_none_right_eq_some, Option.some.injEq]
    exact and_congr_left fun hindex => by rw [hindex]
  | some x =>
    have hfound : x.lowerBound offset = some i ↔
        i < c.view.len ∧ x.offsetOf i ≤ offset ∧ offset < x.offsetOf (i + 1) := by
      rw [(h.indexes hheights).lowerBound_eq_some_iff, RowMetrics.length_heights]
    rw [indexAtOffset, hheights]
    simp only [hfound]
    refine and_congr_right fun hi => ?_
    rw [h.offsetOf_succ_measured hheights hi, h.rowOffset_measured hheights hi.le]

/-- No row is found exactly at and below the end of the content. -/
lemma indexAtOffset_eq_none_iff (h : Arranged settings told c) {offset : Nat} :
    c.indexAtOffset offset = none ↔ c.contentHeight ≤ offset := by
  cases hheights : c.heights with
  | none =>
    rw [indexAtOffset, hheights, h.contentHeight_uniform hheights, h.rowHeight_eq,
      ← Nat.le_div_iff_mul_le c.rule.rowHeight.pos]
    simp only [ite_eq_right_iff, reduceCtorEq, imp_false, Nat.not_lt]
  | some x =>
    rw [indexAtOffset, hheights, contentHeight_measured hheights]
    exact (h.indexes hheights).lowerBound_eq_none_iff

/-- No row reaches past the end of the content. -/
lemma rowOffset_add_rowHeightOf_le (h : Arranged settings told c) {i : Nat}
    (hi : i < c.view.len) : c.rowOffset i + c.rowHeightOf i ≤ c.contentHeight := by
  cases hheights : c.heights with
  | none =>
    rw [h.rowHeightOf_uniform hheights, h.rowOffset_uniform hheights,
      h.contentHeight_uniform hheights, ← Nat.succ_mul]
    exact Nat.mul_le_mul_right _ hi
  | some x =>
    have hx := h.indexes hheights
    rw [← h.offsetOf_succ_measured hheights hi, contentHeight_measured hheights]
    apply hx.offsetOf_le_total
    rwa [RowMetrics.length_heights]

end Arranged

/-- **Hit testing.**  After any sequence of calls the row found at an offset is the one whose span
holds it, and none is found exactly from the end of the content on.  The spans lie end to end, from
the top of the content to its end. -/
theorem offsets_resolve_to_spans (settings : TableSettings) (calls : List Call) :
    let c := (ofSettings settings).run calls
    (∀ offset i, c.indexAtOffset offset = some i ↔
      i < c.view.len ∧ c.rowOffset i ≤ offset ∧ offset < c.rowOffset i + c.rowHeightOf i) ∧
    (∀ offset, c.indexAtOffset offset = none ↔ c.contentHeight ≤ offset) ∧
    c.rowOffset 0 = 0 ∧
    (∀ i < c.view.len, c.rowOffset (i + 1) = c.rowOffset i + c.rowHeightOf i) ∧
    c.rowOffset c.view.len = c.contentHeight := by
  intro c
  have h : Arranged settings (.ofCalls calls) c := (coherent_run settings calls).toArranged
  exact ⟨fun _ _ => h.indexAtOffset_eq_some_iff, fun _ => h.indexAtOffset_eq_none_iff,
    h.rowOffset_zero, fun _ hi => h.rowOffset_succ hi, h.rowOffset_len⟩

/-! ## The committed window -/

variable {settings : TableSettings} {told : Contents} {c : Controller} {v : Viewport}

/-- The top of a coherent table is an offset. -/
lemma Coherent.top_le_highest (h : Coherent settings told c) (hv : c.viewport = some v) :
    v.top ≤ Offset.highest := by
  obtain ⟨-, htop⟩ := h.top_mem v hv
  exact htop.trans (min_le_right ..)

/-- The committed window of a coherent table is the one found for its viewport. -/
lemma Coherent.window_eq (h : Coherent settings told c) (hv : c.viewport = some v) :
    c.window = c.rule.compute c.view.len v c.heights := by
  rw [window, h.committed_eq, snapshot, hv]

/-- The committed window of a coherent table is one of rows of its view. -/
lemma Coherent.window_bounds (h : Coherent settings told c) :
    c.window.start ≤ c.window.stop ∧ c.window.stop ≤ c.view.len := by
  cases hv : c.viewport with
  | none =>
    rw [window, h.committed_eq, snapshot, hv]
    exact ⟨le_rfl, Nat.zero_le _⟩
  | some v =>
    rw [h.window_eq hv]
    cases hheights : c.heights with
    | none =>
      have hcuts := c.rule.compute_none_cuts c.view.len v
      exact ⟨hcuts.start_le_stop, hcuts.stop_le.trans (List.length_replicate ..).le⟩
    | some x =>
      have hcuts := c.rule.compute_some_cuts (h.indexes hheights) (h.top_le_highest hv)
      rw [RowMetrics.length_heights] at hcuts
      exact ⟨hcuts.start_le_stop, hcuts.stop_le.trans (RowMetrics.length_heights ..).le⟩

end Controller

end FlowWatch
