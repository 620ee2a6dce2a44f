import Mathlib
import FlowWatch.Proofs.DerivedView
import FlowWatch.Proofs.MachineWords

/-!
# Arithmetic safety

A table that runs on machine words (`Machine.run`) does what the table on unbounded integers does.
Its rows are fewer than two to the power of 31 and each lower than two to the power of 32, so that
even with the header they are together no higher than the highest offset (`Machine.Sized.extent_le`),
and every function of the windowing core has its exact answer.  How far a host scrolls, what it
overscans and by how much it moves the selection does not matter.

The one operation that can leave its type is the count of commits: it does so at the commit that is
one too many for a word.
-/

namespace FlowWatch

namespace Machine

open Controller

/-! ## A table on machine words -/

/-- The height of all rows together. -/
def rowsHeight (c : Controller) : Option Nat :=
  match c.heights with
  | some index => total index
  | none => contentHeight c.metrics c.view.len

/-- The height of the header and the rows. -/
def scrollExtent (c : Controller) : Option Nat := do word (c.headerHeight + (← rowsHeight c))

/-- The viewport reaches the end of the rows. -/
def atBottom (c : Controller) : Option Bool :=
  match c.viewport with
  | some v => do isAtBottom v (← scrollExtent c) c.anchor.epsilon
  | none => some true

/-- The row that covers an offset below the header. -/
def indexAtOffset (c : Controller) (offset : Nat) : Option (Option Nat) :=
  match c.heights with
  | some index => lowerBound index offset
  | none => do
    let index ← quotient offset c.metrics.rowHeight.lines
    return if index < c.view.len then some index else none

/-- The offset below the header and the height of a row. -/
def rowSpan (c : Controller) (index : Nat) : Option (Nat × Nat) :=
  match c.heights with
  | some heights => do return (← offsetOf heights (min index heights.len), c.metrics.heightOf index)
  | none => do
    return (← word (index * c.metrics.rowHeight.lines), c.metrics.rowHeight.lines)

/-- The number of rows of the committed window. -/
def windowLen (c : Controller) : Option Nat := sub c.window.stop c.window.start

/-- The rows of the committed window with their flows.  The positions looked up have to be those of
rows. -/
def visibleRecords (c : Controller) (flows : Array Flow) : Option (List (Nat × Flow)) := do
  let start := min c.window.start c.view.len
  let stop := max start (min c.window.stop c.view.len)
  guard (stop ≤ c.view.positions.size)
  return c.view.records flows start stop

/-- Moves the viewport to the offset asked for, or leaves it, inside the extent. -/
def settle (c : Controller) (forced : Option Int) : Option Controller :=
  match c.viewport with
  | some v => do
    let top ← clampScrollTop (forced.getD v.top) (← scrollExtent c) v.height
    return { c with
      viewport := some (v.withTop top)
      pendingScroll := if forced.isSome || top != v.top then some top else c.pendingScroll }
  | none => some c

/-- The snapshot that the current state calls for. -/
def snapshot (c : Controller) : Option WindowSnapshot :=
  match c.viewport with
  | some v => do return ⟨← compute c.rule c.view.len v c.heights, v.top⟩
  | none => some .unmeasured

/-- Commits a snapshot that differs from the committed one, and counts it. -/
def commit (c : Controller) (next : WindowSnapshot) : Option (Controller × Bool) :=
  if next = c.committed then some (c, false)
  else do return ({ c with committed := next, commits := ← word (c.commits + 1) }, true)

/-- The step in which every handler ends. -/
def recompute (c : Controller) (forced : Option Int) : Option (Controller × Bool) := do
  let c ← settle c forced
  commit c (← snapshot c)

/-- Whether the viewport sits at the bottom, and of which extent. -/
def captureAnchor (c : Controller) : Option (Option (BottomAnchor × Nat)) := do
  let before ← scrollExtent c
  match c.viewport with
  | some v => return some (⟨← isAtBottom v before c.anchor.epsilon⟩, before)
  | none => return none

/-- The offset that brings a grown table back to the bottom it was captured at. -/
def restoredTop (c : Controller) : Option (BottomAnchor × Nat) → Option (Option Int)
  | some (b, before) => do
    let after ← scrollExtent c
    if after ≤ before then return none
    else match b.wasAtBottom, c.viewport with
      | true, some v => return some (← maxScrollTop after v.height)
      | _, _ => return none
  | none => some none

/-- Brings a grown table back to the bottom it was captured at and finds its window anew. -/
def reanchor (c : Controller) (captured : Option (BottomAnchor × Nat)) :
    Option (Controller × Bool) := do
  recompute c (← restoredTop c captured)

/-- Follows a changed selection in a measured viewport. -/
def follow (c : Controller) : Option (Controller × Option Int) :=
  match c.viewport with
  | some v => do
    let (follower, top) ← followSelection c.follower c.selection c.view v (rowSpan c)
    return ({ c with follower }, top)
  | none => some (c, none)

/-- The step after every change of the selection. -/
def selectionChanged (c : Controller) : Option (Controller × Bool) := do
  let (c, top) ← follow c
  recompute c top

/-- The host has scrolled. -/
def onScroll (c : Controller) (top : Int) : Option (Controller × Bool) :=
  recompute (c.withViewport ⟨top, (c.viewport.map Viewport.height).getD 0⟩) none

/-- Carries out one call; the answer is the state and whether a window was committed. -/
def step (c : Controller) : Call → Option (Controller × Bool)
  | .scroll top => onScroll c top
  | .scrollBy delta =>
    let top := Offset.saturate (c.viewportTop + delta)
    onScroll { c with pendingScroll := some top } top
  | .resize height =>
    recompute (c.withViewport ⟨(c.viewport.map Viewport.top).getD 0, height⟩) none
  | .dataChanged flows => do reanchor (c.withFlows flows) (← captureAnchor c)
  | .setFilter filter flows =>
    if filter = c.filter then some (c, false)
    else do reanchor (c.withFilter filter flows) (← captureAnchor c)
  | .setSelection selection => selectionChanged { c with selection }
  | .selectRelative shift => do
    selectionChanged { c with selection := ← selectRelative c.selection c.view shift }
  | .clearSelection => selectionChanged { c with selection := c.selection.clear }
  | .setHeightOverrides overrides => do reanchor (c.withOverrides overrides) (← captureAnchor c)
  | .takeScrollRequest => some (c.takeScrollRequest.1, false)
  | .editSelection edit => some (c.editSelection edit, false)

/-- The state after a sequence of calls. -/
def run (c : Controller) (calls : List Call) : Option Controller :=
  calls.foldlM (fun c call => (step c call).map Prod.fst) c

/-- An answer, if the commits can still be counted by a word. -/
def counted (answer : Controller × Bool) : Option (Controller × Bool) :=
  if answer.1.commits < 2 ^ 64 then some answer else none

/-- There is no word for one commit too many. -/
lemma commit_eq {c : Controller} (hcommits : c.commits < 2 ^ 64) (next : WindowSnapshot) :
    commit c next = counted (c.commit next) := by
  unfold commit Controller.commit
  split
  · exact (if_pos hcommits).symm
  · unfold word counted
    dsimp only
    split <;> rfl

end Machine

/-! ## Sizes -/

/-- The heights of the settings are words of 32 bits. -/
structure TableSettings.Fits (settings : TableSettings) : Prop where
  rowHeight_lt : settings.rowHeight.lines < 2 ^ 32
  headerHeight_lt : settings.headerHeight < 2 ^ 32

namespace Controller

/-- A host may measure a viewport and rows lower than two to the power of 32, and show fewer than
two to the power of 31 flows.  Offsets and shifts may be any. -/
def Call.Fits : Call → Prop
  | .resize height => height < 2 ^ 32
  | .dataChanged flows => flows.size < 2 ^ 31
  | .setFilter _ flows => flows.size < 2 ^ 31
  | .setHeightOverrides overrides => ∀ height ∈ overrides, height < 2 ^ 32
  | _ => True

/-- What a host may have told. -/
structure Contents.Fits (told : Contents) : Prop where
  flows_lt : told.flows.size < 2 ^ 31
  overrides_lt : ∀ height ∈ told.overrides, height < 2 ^ 32

lemma Contents.fits_initial : Contents.initial.Fits :=
  ⟨by decide, fun _ hheight => absurd hheight (Array.not_mem_empty _)⟩

/-- A call tells what a host may tell. -/
lemma Contents.Fits.after {told : Contents} (h : told.Fits) {call : Call} (hcall : call.Fits) :
    (told.after call).Fits := by
  cases call with
  | dataChanged flows => exact { h with flows_lt := hcall }
  | setFilter filter flows =>
    rw [Contents.after]
    split
    · exact h
    · exact { h with flows_lt := hcall }
  | setHeightOverrides overrides => exact { h with overrides_lt := hcall }
  | _ => exact h

end Controller

namespace Machine

open Controller

/-- A table whose contents belong together, with few enough rows, none of them too high. -/
structure Sized (settings : TableSettings) (told : Contents) (c : Controller) : Prop extends
    Arranged settings told c where
  settings_fit : settings.Fits
  told_fits : told.Fits
  height_lt : (c.viewport.map Viewport.height).getD 0 < 2 ^ 32

namespace Sized

variable {settings : TableSettings} {told : Contents} {c : Controller}

/-- There are fewer rows than flows may be shown. -/
lemma len_lt (h : Sized settings told c) : c.view.len < 2 ^ 31 := by
  refine lt_of_le_of_lt ?_ h.told_fits.flows_lt
  rw [h.view_eq, OrderedView.len_derive, OrderedView.admittedRows]
  exact (List.length_filter_le ..).trans (by simp)

/-- No row is too high. -/
lemma heightOf_lt (h : Sized settings told c) (index : Nat) :
    c.metrics.heightOf index < 2 ^ 32 := by
  have hrow := h.settings_fit.rowHeight_lt
  rw [h.metrics_eq, RowMetrics.heightOf]
  dsimp only
  split
  · rename_i height hheight
    have hlt := h.told_fits.overrides_lt height (Array.mem_of_getElem? hheight)
    split
    · exact hrow
    · exact hlt
  · exact hrow

lemma heights_lt (h : Sized settings told c) :
    ∀ height ∈ c.metrics.heights c.view.len, height < 2 ^ 32 := by
  intro height hheight
  obtain ⟨index, -, rfl⟩ := List.mem_map.mp hheight
  exact h.heightOf_lt index

/-- The rows are together no higher than so many of the highest ones. -/
lemma contentHeight_le (h : Sized settings told c) :
    c.contentHeight ≤ (2 ^ 31 - 1) * (2 ^ 32 - 1) := by
  have hlen := h.len_lt
  rw [h.contentHeight_eq_sum]
  calc (c.metrics.heights c.view.len).sum
      ≤ (c.metrics.heights c.view.len).length • (2 ^ 32 - 1) := by
        refine List.sum_le_card_nsmul _ _ fun height hheight => ?_
        exact Nat.le_pred_of_lt (h.heights_lt height hheight)
    _ = c.view.len * (2 ^ 32 - 1) := by rw [RowMetrics.length_heights, smul_eq_mul]
    _ ≤ (2 ^ 31 - 1) * (2 ^ 32 - 1) := Nat.mul_le_mul_right _ (by omega)

/-- Header and rows are together no higher than the highest offset. -/
lemma extent_le (h : Sized settings told c) : (c.scrollExtent : Int) ≤ Offset.highest := by
  have hcontent := h.contentHeight_le
  have hheader := h.settings_fit.headerHeight_lt
  rw [Controller.scrollExtent, h.headerHeight_eq, Offset.highest]
  omega

/-- So are the rows alone. -/
lemma content_le (h : Sized settings told c) : (c.contentHeight : Int) ≤ Offset.highest := by
  refine le_trans (Int.ofNat_le.mpr ?_) h.extent_le
  exact Nat.le_add_left ..

/-- Every row and the end of the last one lie at offsets that can be represented. -/
lemma rowOffset_le (h : Sized settings told c) {index : Nat} (hindex : index ≤ c.view.len) :
    (c.rowOffset index : Int) ≤ Offset.highest := by
  refine le_trans (Int.ofNat_le.mpr ?_) h.content_le
  cases hheights : c.heights with
  | none =>
    rw [h.rowOffset_uniform hheights, h.contentHeight_uniform hheights]
    exact Nat.mul_le_mul_right _ hindex
  | some x =>
    rw [h.rowOffset_measured hheights hindex, Arranged.contentHeight_measured hheights]
    apply (h.indexes hheights).offsetOf_le_total
    rwa [RowMetrics.length_heights]

/-- The viewport is no higher than the highest offset. -/
lemma viewport_height_le (h : Sized settings told c) {v : Viewport} (hv : c.viewport = some v) :
    (v.height : Int) ≤ Offset.highest := by
  have hheight := h.height_lt
  rw [hv] at hheight
  have hlt : v.height < 2 ^ 32 := hheight
  rw [Offset.highest]
  omega

/-- The height index of a table has its exact answers. -/
lemma describes (h : Sized settings told c) {x : HeightIndex} (hx : c.heights = some x) :
    Describes x (c.metrics.heights c.view.len) where
  toIndexes := h.indexes hx
  length_lt := by
    have hlen := h.len_lt
    rw [RowMetrics.length_heights]
    omega
  sum_le := by
    rw [← h.contentHeight_eq_sum]
    exact h.content_le

/-! ### Changes of the contents -/

lemma withViewport (h : Sized settings told c) {v : Viewport} (hv : v.height < 2 ^ 32) :
    Sized settings told (c.withViewport v) :=
  { h with height_lt := hv }

lemma withFlows (h : Sized settings told c) {flows : Array Flow} (hflows : flows.size < 2 ^ 31) :
    Sized settings { told with flows } (c.withFlows flows) :=
  { h.toArranged.withFlows flows with
    settings_fit := h.settings_fit
    told_fits := { h.told_fits with flows_lt := hflows }
    height_lt := h.height_lt }

lemma withFilter (h : Sized settings told c) (filter : FilterSpec) {flows : Array Flow}
    (hflows : flows.size < 2 ^ 31) :
    Sized settings { told with flows, filter } (c.withFilter filter flows) :=
  { h.toArranged.withFilter filter flows with
    settings_fit := h.settings_fit
    told_fits := { h.told_fits with flows_lt := hflows }
    height_lt := h.height_lt }

lemma withOverrides (h : Sized settings told c) {overrides : Array Nat}
    (hoverrides : ∀ height ∈ overrides, height < 2 ^ 32) :
    Sized settings { told with overrides } (c.withOverrides overrides) :=
  { h.toArranged.withOverrides overrides with
    settings_fit := h.settings_fit
    told_fits := { h.told_fits with overrides_lt := hoverrides }
    height_lt := h.height_lt }

lemma follow (h : Sized settings told c) : Sized settings told c.follow.1 :=
  { h.toArranged.follow with
    settings_fit := h.settings_fit
    told_fits := h.told_fits
    height_lt := by
      rw [follow_frame]
      exact h.height_lt }

lemma settle (h : Sized settings told c) (forced : Option Int) :
    Sized settings told (c.settle forced) := by
  have hheight : ((c.settle forced).viewport.map Viewport.height).getD 0 < 2 ^ 32 := by
    rw [settle_viewport, Option.map_map]
    exact h.height_lt
  rw [settle_frame]
  exact { h with height_lt := hheight }

/-! ### Derived state -/

lemma metrics_contentHeight_eq (h : Sized settings told c) :
    contentHeight c.metrics c.view.len = some (c.metrics.contentHeight c.view.len) := by
  apply contentHeight_eq
  rw [c.metrics.contentHeight_eq_sum, ← h.contentHeight_eq_sum]
  exact lt_word_of_le_highest h.content_le

lemma rowsHeight_eq (h : Sized settings told c) : rowsHeight c = some c.contentHeight := by
  unfold rowsHeight
  cases hheights : c.heights with
  | none =>
    rw [Controller.contentHeight, hheights]
    exact h.metrics_contentHeight_eq
  | some x =>
    rw [Arranged.contentHeight_measured hheights]
    exact (h.describes hheights).total_eq

lemma scrollExtent_eq (h : Sized settings told c) : scrollExtent c = some c.scrollExtent := by
  rw [scrollExtent, h.rowsHeight_eq]
  exact word_eq_some (lt_word_of_le_highest h.extent_le)

lemma atBottom_eq (h : Sized settings told c) : atBottom c = some c.atBottom := by
  unfold atBottom Controller.atBottom
  cases c.viewport with
  | none => rfl
  | some v =>
    dsimp only
    rw [h.scrollExtent_eq]
    exact isAtBottom_eq h.extent_le v c.anchor.epsilon

lemma indexAtOffset_eq (h : Sized settings told c) (offset : Nat) :
    indexAtOffset c offset = some (c.indexAtOffset offset) := by
  unfold indexAtOffset Controller.indexAtOffset
  cases hheights : c.heights with
  | none =>
    dsimp only
    rw [quotient_eq_some c.metrics.rowHeight.pos]
    rfl
  | some x => exact (h.describes hheights).lowerBound_eq offset

lemma rowSpan_eq (h : Sized settings told c) {index : Nat} (hindex : index ≤ c.view.len) :
    rowSpan c index = some (c.rowSpan index) := by
  have hoffset := lt_word_of_le_highest (h.rowOffset_le hindex)
  unfold rowSpan
  rw [rowOffset] at hoffset
  unfold Controller.rowSpan at hoffset ⊢
  cases hheights : c.heights with
  | none =>
    rw [hheights] at hoffset
    dsimp only at hoffset ⊢
    rw [word_eq_some hoffset]
    rfl
  | some x =>
    have hx := h.describes hheights
    dsimp only
    rw [hx.offsetOf_eq (hx.len_eq ▸ min_le_right ..)]
    rfl

/-! ### The step in which every handler ends -/

lemma settle_eq (h : Sized settings told c) (forced : Option Int) :
    Machine.settle c forced = some (c.settle forced) := by
  unfold Machine.settle Controller.settle
  cases c.viewport with
  | none => rfl
  | some v =>
    dsimp only
    rw [h.scrollExtent_eq, Option.bind_eq_bind, Option.bind_some, clampScrollTop_eq h.extent_le]
    rfl

/-- The window of a viewport at an offset that can be represented. -/
lemma snapshot_eq (h : Sized settings told c)
    (htop : ∀ v, c.viewport = some v → v.top ≤ Offset.highest) :
    snapshot c = some c.snapshot := by
  unfold snapshot Controller.snapshot
  cases hv : c.viewport with
  | none => rfl
  | some v =>
    -- the index, if there is one, counts as many rows as the view, so that it is not passed over
    have hcompute : compute c.rule c.view.len v c.heights =
        some (c.rule.compute c.view.len v c.heights) := by
      cases hheights : c.heights with
      | none =>
        apply compute_none_eq
        rw [← h.contentHeight_uniform hheights]
        exact h.content_le
      | some x =>
        have hfound := compute_some_eq c.rule (h.describes hheights) (htop v hv)
          (h.viewport_height_le hv)
        rwa [RowMetrics.length_heights] at hfound
    dsimp only
    rw [hcompute]
    rfl

/-- The step that ends a handler, if there is a word for one commit more. -/
lemma recompute_eq (h : Sized settings told c) (hcommits : c.commits < 2 ^ 64) (trigger : Trigger)
    (forced : Option Int) :
    recompute c forced = counted (c.recompute trigger forced).value := by
  have hsettled := h.settle forced
  have hkept : (c.settle forced).commits < 2 ^ 64 := by
    rw [settle_frame]
    exact hcommits
  rw [recompute, h.settle_eq, Option.bind_eq_bind, Option.bind_some,
    hsettled.snapshot_eq fun v hv => c.top_settle_le forced hv, Option.bind_eq_bind,
    Option.bind_some,
    commit_eq hkept, value_recompute]

lemma captureAnchor_eq (h : Sized settings told c) : captureAnchor c = some c.captureAnchor := by
  rw [captureAnchor, h.scrollExtent_eq, Controller.captureAnchor, ScrollAnchor.capture]
  cases c.viewport with
  | none => rfl
  | some v =>
    simp only [isAtBottom_eq h.extent_le, Option.bind_eq_bind, Option.bind_some]
    rfl

lemma restoredTop_eq (h : Sized settings told c) (captured : Option (BottomAnchor × Nat)) :
    restoredTop c captured = some (c.restoredTop captured) := by
  cases captured with
  | none => rfl
  | some captured =>
    obtain ⟨b, before⟩ := captured
    simp only [restoredTop, h.scrollExtent_eq, Controller.restoredTop, BottomAnchor.restore,
      Option.bind_eq_bind, Option.bind_some]
    split
    · rfl
    · cases b.wasAtBottom with
      | false => rfl
      | true =>
        cases c.viewport with
        | none => rfl
        | some v =>
          dsimp only
          rw [maxScrollTop_eq h.extent_le]
          rfl

lemma reanchor_eq (h : Sized settings told c) (hcommits : c.commits < 2 ^ 64) (trigger : Trigger)
    (captured : Option (BottomAnchor × Nat)) :
    reanchor c captured = counted (c.recompute trigger (c.restoredTop captured)).value := by
  rw [reanchor, h.restoredTop_eq]
  exact h.recompute_eq hcommits trigger _

lemma follow_eq (h : Sized settings told c) : Machine.follow c = some c.follow := by
  unfold Machine.follow Controller.follow
  cases hv : c.viewport with
  | none => rfl
  | some v =>
    have hspan (id : FlowId) (index : Nat) (hindex : c.view.indexOf id = some index) :
        rowSpan c index = some (c.rowSpan index) ∧
          ((c.rowSpan index).1 : Int) ≤ Offset.highest := by
      rw [h.view_eq] at hindex
      have hlt := OrderedView.lt_len_of_indexOf_derive hindex
      rw [← h.view_eq] at hlt
      exact ⟨h.rowSpan_eq hlt.le, h.rowOffset_le hlt.le⟩
    dsimp only
    rw [followSelection_eq c.follower c.selection (h.viewport_height_le hv) hspan]
    rfl

lemma selectionChanged_eq (h : Sized settings told c) (hcommits : c.commits < 2 ^ 64) :
    selectionChanged c = counted c.selectionChanged.value := by
  rw [selectionChanged, h.follow_eq, value_selectionChanged]
  exact h.follow.recompute_eq (c.follow_commits ▸ hcommits) .selectionChanged _

/-! ### One call -/

/-- A call on machine words does what it does on unbounded integers, if there is a word for one
commit more. -/
lemma step_eq (h : Sized settings told c) (hcommits : c.commits < 2 ^ 64) {call : Call}
    (hcall : call.Fits) : step c call = counted (c.stepLogged call).value := by
  unfold stepLogged
  cases call with
  | scroll top =>
    rw [value_onScroll]
    exact (h.withViewport h.height_lt).recompute_eq hcommits .scroll none
  | scrollBy delta =>
    rw [value_scrollBy, value_onScroll]
    have hqueued : Sized settings told
        { c with pendingScroll := some (Offset.saturate (c.viewportTop + delta)) } := { h with }
    exact (hqueued.withViewport h.height_lt).recompute_eq hcommits .scroll none
  | resize height =>
    rw [value_onResize]
    exact (h.withViewport (v := ⟨(c.viewport.map Viewport.top).getD 0, height⟩) hcall).recompute_eq
      hcommits .resize none
  | dataChanged flows =>
    rw [step, h.captureAnchor_eq, value_onDataChanged]
    exact (h.withFlows hcall).reanchor_eq hcommits .dataChanged _
  | setFilter filter flows =>
    by_cases hsame : filter = c.filter
    · subst hsame
      rw [step, if_pos rfl, value_setFilter_self]
      exact (if_pos hcommits).symm
    · rw [step, if_neg hsame, h.captureAnchor_eq, c.value_setFilter hsame]
      exact (h.withFilter filter hcall).reanchor_eq hcommits .filterChanged _
  | setSelection selection =>
    have hselected : Sized settings told { c with selection } := { h with }
    exact hselected.selectionChanged_eq hcommits
  | selectRelative shift =>
    have hlen := h.len_lt
    have hselected : Sized settings told
        { c with selection := c.selection.selectRelative c.view shift } := { h with }
    rw [step, selectRelative_eq c.selection (by omega)]
    exact hselected.selectionChanged_eq hcommits
  | clearSelection =>
    have hselected : Sized settings told { c with selection := c.selection.clear } := { h with }
    exact hselected.selectionChanged_eq hcommits
  | setHeightOverrides overrides =>
    rw [step, h.captureAnchor_eq, value_setHeightOverrides]
    exact (h.withOverrides hcall).reanchor_eq hcommits .metricsChanged _
  | takeScrollRequest => exact (if_pos hcommits).symm
  | editSelection edit => exact (if_pos hcommits).symm

/-- A call leaves a table whose rows are few and low enough. -/
lemma after (hc : Coherent settings told c) (h : Sized settings told c) {call : Call}
    (hcall : call.Fits) : Sized settings (told.after call) (c.step call) :=
  { (coherent_step hc call).toArranged with
    settings_fit := h.settings_fit
    told_fits := h.told_fits.after hcall
    height_lt := by
      rw [map_height_step]
      cases call with
      | resize height => exact hcall
      | _ => exact h.height_lt }

end Sized

/-! ## A run -/

variable {settings : TableSettings} {calls : List Call}

/-- After any calls that a host may make, the rows of a table are few and low enough. -/
lemma sized_run (hsettings : settings.Fits) (hcalls : ∀ call ∈ calls, call.Fits) :
    Sized settings (.ofCalls calls) ((ofSettings settings).run calls) := by
  induction calls using List.reverseRecOn with
  | nil =>
    exact { (coherent_ofSettings settings).toArranged with
      settings_fit := hsettings
      told_fits := Contents.fits_initial
      height_lt := Nat.two_pow_pos 32 }
  | append_singleton calls call ih =>
    have hsized := ih fun earlier hearlier => hcalls earlier (List.mem_append_left _ hearlier)
    rw [run_append, run_cons, run_nil, Contents.ofCalls, List.foldl_append]
    exact Sized.after (coherent_run settings calls) hsized
      (hcalls call (List.mem_append_right _ (List.mem_singleton_self call)))

/-- A run on machine words ends where the run on unbounded integers ends, as long as the commits are
counted by a word. -/
lemma run_eq (hsettings : settings.Fits) (hcalls : ∀ call ∈ calls, call.Fits) :
    run (ofSettings settings) calls =
      if ((ofSettings settings).run calls).commits < 2 ^ 64 then
        some ((ofSettings settings).run calls)
      else none := by
  -- from the end, as the bound on the heights is one on what all earlier calls have told
  induction calls using List.reverseRecOn with
  | nil => rfl
  | append_singleton calls call ih =>
    have hearlier : ∀ earlier ∈ calls, earlier.Fits := fun earlier hmem =>
      hcalls earlier (List.mem_append_left _ hmem)
    have hcall : call.Fits := hcalls call (List.mem_append_right _ (List.mem_singleton_self call))
    have hgrown := (commits_step ((ofSettings settings).run calls) call).1
    rw [run, List.foldlM_append, ← run, ih hearlier, run_append, run_cons, run_nil]
    split
    · rename_i hcommits
      have hstep := (sized_run hsettings hearlier).step_eq hcommits hcall
      rw [Option.bind_eq_bind, Option.bind_some, List.foldlM_cons, hstep, counted]
      unfold Controller.step
      split <;> rfl
    · -- a count that has left the word does not come back
      rename_i hcommits
      rw [if_neg (by omega)]
      rfl

/-- The records of the committed window are looked up at positions of rows. -/
lemma visibleRecords_eq {told : Contents} {c : Controller} (h : Coherent settings told c)
    (flows : Array Flow) : visibleRecords c flows = some (c.visibleRecords flows) := by
  obtain ⟨horder, hstop⟩ := h.window_bounds
  have hpositions : c.view.positions.size = c.view.len := by
    rw [h.view_eq, OrderedView.len_derive, ← Array.length_toList, OrderedView.positions_derive,
      List.length_map]
  have hguard : (guard (c.window.stop ≤ c.view.positions.size) : Option Unit) = some () :=
    if_pos (hpositions ▸ hstop)
  rw [visibleRecords, min_eq_left (horder.trans hstop), min_eq_left hstop, max_eq_right horder,
    hguard]
  rfl

/-- **Arithmetic safety.**  Let the settings be words of 32 bits, with any overscan, and let the host
make any calls with any offsets and shifts, viewports and rows of heights below two to the power of
32, and fewer than two to the power of 31 flows at a time.  Then the run on machine words ends in the
state of the run on unbounded integers, unless more commits have been made than a word can count;
for that there have to be as many calls.  From there every further call does the same on machine
words, the extent and the offsets of all rows can be represented as scroll offsets, and whatever the
table and its height index are asked for is answered exactly. -/
theorem arithmetic_safety (settings : TableSettings) (calls : List Call)
    (hsettings : settings.Fits) (hcalls : ∀ call ∈ calls, call.Fits) :
    let c := (ofSettings settings).run calls
    (run (ofSettings settings) calls = (if c.commits < 2 ^ 64 then some c else none) ∧
      c.commits ≤ calls.length) ∧
    (∀ call : Call, call.Fits → c.commits < 2 ^ 64 →
      step c call = counted (c.stepLogged call).value) ∧
    ((c.scrollExtent : Int) ≤ Offset.highest ∧
      ∀ index ≤ c.view.len, (c.rowOffset index : Int) ≤ Offset.highest) ∧
    (contentHeight c.metrics c.view.len = some (c.metrics.contentHeight c.view.len) ∧
      scrollExtent c = some c.scrollExtent ∧ atBottom c = some c.atBottom ∧
      (∀ offset, indexAtOffset c offset = some (c.indexAtOffset offset)) ∧
      (∀ index ≤ c.view.len, rowSpan c index = some (c.rowSpan index)) ∧
      windowLen c = some c.window.len ∧
      ∀ flows, visibleRecords c flows = some (c.visibleRecords flows)) ∧
    ∀ x, c.heights = some x → ∀ index < c.view.len, height x index = some (x.height index) ∧
      ∀ newHeight < 2 ^ 32, set x index newHeight = some (x.set index newHeight) := by
  intro c
  have hc : Coherent settings (.ofCalls calls) c := coherent_run settings calls
  have h : Sized settings (.ofCalls calls) c := sized_run hsettings hcalls
  refine ⟨⟨run_eq hsettings hcalls, commits_run_le settings calls⟩,
    fun call hcall hcommits => h.step_eq hcommits hcall,
    ⟨h.extent_le, fun index hindex => h.rowOffset_le hindex⟩,
    ⟨h.metrics_contentHeight_eq, h.scrollExtent_eq, h.atBottom_eq, h.indexAtOffset_eq,
      fun index hindex => h.rowSpan_eq hindex, sub_eq_some hc.window_bounds.1,
      visibleRecords_eq hc⟩, fun x hx index hindex => ?_⟩
  have hrow : index < (c.metrics.heights c.view.len).length := by
    rwa [RowMetrics.length_heights]
  have hheight := h.heights_lt _ (List.getElem_mem hrow)
  exact ⟨(h.describes hx).height_eq hrow hheight,
    fun newHeight hnew => (h.describes hx).set_eq hrow hheight hnew⟩

/-- Three rows of the greatest height but the first, below a header of that height, overscanned as
far as a word goes and scrolled from the lowest offset to the highest: the viewport ends where the
last row does. -/
theorem arithmetic_safety_at_the_extremes :
    let settings : TableSettings := ⟨⟨2 ^ 32 - 1, by decide⟩, 2 ^ 32 - 1, 2 ^ 64 - 1, 2 ^ 32 - 1⟩
    let calls : List Call := [.scroll Offset.lowest, .resize (2 ^ 32 - 1),
      .dataChanged (Contents.connections 3), .setHeightOverrides #[1, 2 ^ 32 - 1],
      .scrollBy Offset.lowest, .scrollBy Offset.highest]
    (settings.Fits ∧ ∀ call ∈ calls, call.Fits) ∧
    ∃ c, run (ofSettings settings) calls = some c ∧ c.scrollExtent = 12884901886 ∧
      c.viewport = some ⟨8589934591, 4294967295⟩ := by
  intro settings calls
  have hsettings : settings.Fits := ⟨by decide, by decide⟩
  have hcalls : ∀ call ∈ calls, call.Fits := by
    simp [calls, Call.Fits, Contents.connections]
  obtain ⟨⟨hrun, hcommits⟩, -⟩ := arithmetic_safety settings calls hsettings hcalls
  rw [if_pos (lt_of_le_of_lt hcommits (by decide))] at hrun
  exact ⟨⟨hsettings, hcalls⟩, _, hrun, by decide +kernel, by decide +kernel⟩

end Machine

end FlowWatch
