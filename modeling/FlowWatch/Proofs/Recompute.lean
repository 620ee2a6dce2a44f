import Mathlib
import FlowWatch.Table.Controller

/-!
# The step in which every handler ends

`recompute` settles the viewport and commits the window found there.  This file says once what that
step does to each part of a controller: the viewport moves into the extent
(`recompute_viewport`), the committed snapshot becomes the one that the new state calls for
(`recompute_committed`), the answer and the count tell whether it differs from the old one
(`recompute_changed_iff`, `recompute_commits`), and beside these only the queued scroll may change
(`recompute_frame`).

A handler is then one equation: a change of the contents, the viewport or the selection, and that
step.
-/

namespace FlowWatch

namespace Controller

variable (c : Controller) (trigger : Trigger) (forced : Option Int)

/-! ## Settling and committing -/

/-- Events aside, the step settles the viewport and commits what is found there. -/
lemma value_recompute :
    (c.recompute trigger forced).value =
      (c.settle forced).commit (c.settle forced).snapshot := by
  unfold recompute
  simp [value_snapshotLogged]

/-- Settling moves the viewport and may queue a scroll. -/
lemma settle_frame :
    c.settle forced =
      { c with
        viewport := (c.settle forced).viewport
        pendingScroll := (c.settle forced).pendingScroll } := by
  unfold settle
  cases c.viewport <;> rfl

/-- A settled viewport has its height and the clamped offset. -/
lemma settle_viewport :
    (c.settle forced).viewport = c.viewport.map fun v =>
      v.withTop (clampScrollTop (forced.getD v.top) c.scrollExtent v.height) := by
  unfold settle
  cases h : c.viewport with
  | none => exact h
  | some v => rfl

/-- A settled viewport lies at an offset that can be represented. -/
lemma top_settle_le {v : Viewport} (hv : (c.settle forced).viewport = some v) :
    v.top ≤ Offset.highest := by
  rw [settle_viewport, Option.map_eq_some_iff] at hv
  obtain ⟨before, -, rfl⟩ := hv
  exact (clampScrollTop_le ..).trans (min_le_right ..)

/-- Committing changes the committed snapshot and the count of commits. -/
lemma commit_frame (next : WindowSnapshot) :
    (c.commit next).1 =
      { c with
        committed := (c.commit next).1.committed
        commits := (c.commit next).1.commits } := by
  unfold commit
  split <;> rfl

/-- The snapshot given is the one committed afterwards. -/
lemma commit_committed (next : WindowSnapshot) : (c.commit next).1.committed = next := by
  unfold commit
  split
  · exact Eq.symm ‹_›
  · rfl

/-- The answer tells whether the committed snapshot differs from the old one. -/
lemma commit_changed_iff (next : WindowSnapshot) :
    (c.commit next).2 = true ↔ next ≠ c.committed := by
  unfold commit
  split <;> simp_all

/-- The count grows with the answer. -/
lemma commit_commits (next : WindowSnapshot) :
    (c.commit next).1.commits = if (c.commit next).2 then c.commits + 1 else c.commits := by
  unfold commit
  split <;> rfl

/-! ## The whole step -/

/-- Beside the viewport, the queued scroll and what is committed, nothing changes. -/
lemma recompute_frame :
    (c.recompute trigger forced).value.1 =
      { c with
        viewport := (c.recompute trigger forced).value.1.viewport
        pendingScroll := (c.recompute trigger forced).value.1.pendingScroll
        committed := (c.recompute trigger forced).value.1.committed
        commits := (c.recompute trigger forced).value.1.commits } := by
  rw [value_recompute, commit_frame, settle_frame]

@[simp]
lemma recompute_rule : (c.recompute trigger forced).value.1.rule = c.rule := by
  rw [recompute_frame]

@[simp]
lemma recompute_metrics : (c.recompute trigger forced).value.1.metrics = c.metrics := by
  rw [recompute_frame]

@[simp]
lemma recompute_heights : (c.recompute trigger forced).value.1.heights = c.heights := by
  rw [recompute_frame]

@[simp]
lemma recompute_anchor : (c.recompute trigger forced).value.1.anchor = c.anchor := by
  rw [recompute_frame]

@[simp]
lemma recompute_follower : (c.recompute trigger forced).value.1.follower = c.follower := by
  rw [recompute_frame]

@[simp]
lemma recompute_filter : (c.recompute trigger forced).value.1.filter = c.filter := by
  rw [recompute_frame]

@[simp]
lemma recompute_view : (c.recompute trigger forced).value.1.view = c.view := by
  rw [recompute_frame]

@[simp]
lemma recompute_headerHeight :
    (c.recompute trigger forced).value.1.headerHeight = c.headerHeight := by
  rw [recompute_frame]
  rfl

@[simp]
lemma recompute_scrollExtent :
    (c.recompute trigger forced).value.1.scrollExtent = c.scrollExtent := by
  rw [recompute_frame]
  rfl

@[simp]
lemma recompute_selection : (c.recompute trigger forced).value.1.selection = c.selection := by
  rw [recompute_frame]

/-- The viewport settles at the forced offset, or at its own, clamped into the extent. -/
lemma recompute_viewport :
    (c.recompute trigger forced).value.1.viewport = c.viewport.map fun v =>
      v.withTop (clampScrollTop (forced.getD v.top) c.scrollExtent v.height) := by
  rw [value_recompute, commit_frame]
  exact c.settle_viewport forced

/-- Before it is measured a table queues no scroll. -/
lemma recompute_pendingScroll_of_none (hv : c.viewport = none) :
    (c.recompute trigger forced).value.1.pendingScroll = c.pendingScroll := by
  rw [value_recompute, commit_frame, settle, hv]

/-- A measured table queues the offset at which it settles, if that was forced or had to be
clamped. -/
lemma recompute_pendingScroll_of_some {v : Viewport} (hv : c.viewport = some v) :
    (c.recompute trigger forced).value.1.pendingScroll =
      let top := clampScrollTop (forced.getD v.top) c.scrollExtent v.height
      if forced.isSome || top != v.top then some top else c.pendingScroll := by
  rw [value_recompute, commit_frame, settle, hv]

/-- What is committed is what the state calls for. -/
lemma recompute_committed :
    (c.recompute trigger forced).value.1.committed =
      (c.recompute trigger forced).value.1.snapshot := by
  rw [value_recompute, commit_committed]
  exact (congrArg snapshot ((c.settle forced).commit_frame _)).symm

/-- The answer tells whether the committed snapshot differs from the old one. -/
lemma recompute_changed_iff :
    (c.recompute trigger forced).value.2 = true ↔
      (c.recompute trigger forced).value.1.committed ≠ c.committed := by
  have hkept : (c.settle forced).committed = c.committed := by
    rw [settle_frame]
  rw [value_recompute, commit_changed_iff, commit_committed, hkept]

/-- The count grows with the answer. -/
lemma recompute_commits :
    (c.recompute trigger forced).value.1.commits =
      if (c.recompute trigger forced).value.2 then c.commits + 1 else c.commits := by
  have hkept : (c.settle forced).commits = c.commits := by
    rw [settle_frame]
  rw [value_recompute, commit_commits, hkept]

/-! ## What the handlers change -/

/-- The table in a host container that reports another offset or height. -/
def withViewport (v : Viewport) : Controller := { c with viewport := some v }

/-- The table over another captured sequence. -/
def withFlows (flows : Array Flow) : Controller :=
  { c with
    selection := c.selection.retain fun id => flows.any fun f => f.id == id
    view := .derive flows c.filter }.rebuildHeights

/-- The table with another filter over a captured sequence. -/
def withFilter (filter : FilterSpec) (flows : Array Flow) : Controller :=
  { c with filter, view := .derive flows filter }.rebuildHeights

/-- The table with other measured heights. -/
def withOverrides (overrides : Array Nat) : Controller :=
  { c with metrics := ⟨c.metrics.rowHeight, overrides⟩ }.rebuildHeights

/-- A scroll moves the top of the viewport. -/
lemma value_onScroll (top : Int) :
    (c.onScroll top).value =
      ((c.withViewport ⟨top, (c.viewport.map Viewport.height).getD 0⟩).recompute
        .scroll none).value := rfl

/-- A relative scroll queues the offset it asks for and scrolls there. -/
lemma value_scrollBy (delta : Int) :
    (c.scrollBy delta).value =
      ({ c with
        pendingScroll := some (Offset.saturate (c.viewportTop + delta)) }.onScroll
          (Offset.saturate (c.viewportTop + delta))).value := rfl

/-- A resize gives the viewport another height. -/
lemma value_onResize (height : Nat) :
    (c.onResize height).value =
      ((c.withViewport ⟨(c.viewport.map Viewport.top).getD 0, height⟩).recompute
        .resize none).value := rfl

/-- New data replace the view, and a table at the bottom is brought back there if it has grown. -/
lemma value_onDataChanged (flows : Array Flow) :
    (c.onDataChanged flows).value =
      ((c.withFlows flows).recompute .dataChanged
        ((c.withFlows flows).restoredTop c.captureAnchor)).value := rfl

/-- Another filter replaces the view likewise. -/
lemma value_setFilter {filter : FilterSpec} (hne : filter ≠ c.filter) (flows : Array Flow) :
    (c.setFilter filter flows).value =
      ((c.withFilter filter flows).recompute .filterChanged
        ((c.withFilter filter flows).restoredTop c.captureAnchor)).value := by
  rw [setFilter, if_neg hne]
  rfl

/-- The same filter changes nothing. -/
lemma value_setFilter_self (flows : Array Flow) :
    (c.setFilter c.filter flows).value = (c, false) := by
  rw [setFilter, if_pos rfl]
  rfl

/-- Other measured heights replace the height index likewise. -/
lemma value_setHeightOverrides (overrides : Array Nat) :
    (c.setHeightOverrides overrides).value =
      ((c.withOverrides overrides).recompute .metricsChanged
        ((c.withOverrides overrides).restoredTop c.captureAnchor)).value := rfl

/-- A changed selection is followed first. -/
lemma value_selectionChanged :
    c.selectionChanged.value =
      (c.follow.1.recompute .selectionChanged c.follow.2).value := rfl

/-- Following changes nothing but what the follower remembers. -/
lemma follow_frame : c.follow.1 = { c with follower := c.follow.1.follower } := by
  unfold follow
  split <;> rfl

lemma follow_committed : c.follow.1.committed = c.committed := by
  rw [follow_frame]

lemma follow_commits : c.follow.1.commits = c.commits := by
  rw [follow_frame]

/-- Following does not change the header. -/
@[simp]
lemma follow_headerHeight : c.follow.1.headerHeight = c.headerHeight := by
  unfold follow headerHeight
  split
  · exact SelectionFollower.follow_headerHeight ..
  · rfl

/-! ## What a call changes -/

/-- The table as a call changes it, apart from the viewport, the queued scroll and what is
committed. -/
def changed : Call → Controller
  | .dataChanged flows => c.withFlows flows
  | .setFilter filter flows => if filter = c.filter then c else c.withFilter filter flows
  | .setSelection selection => { c with selection }.follow.1
  | .selectRelative shift =>
    { c with selection := c.selection.selectRelative c.view shift }.follow.1
  | .clearSelection => { c with selection := c.selection.clear }.follow.1
  | .setHeightOverrides overrides => c.withOverrides overrides
  | .editSelection edit => c.editSelection edit
  | _ => c

/-- Beside the viewport, the queued scroll and what is committed, a call changes what `changed`
says. -/
lemma step_frame (call : Call) :
    c.step call =
      { c.changed call with
        viewport := (c.step call).viewport
        pendingScroll := (c.step call).pendingScroll
        committed := (c.step call).committed
        commits := (c.step call).commits } := by
  unfold step stepLogged
  cases call with
  | scroll top => exact recompute_frame _ .scroll _
  | scrollBy delta => exact recompute_frame _ .scroll _
  | resize height => exact recompute_frame _ .resize _
  | dataChanged flows => exact recompute_frame _ .dataChanged _
  | setFilter filter flows =>
    by_cases hsame : filter = c.filter
    · rw [hsame, value_setFilter_self, changed, if_pos rfl]
    · rw [c.value_setFilter hsame, changed, if_neg hsame]
      exact recompute_frame ..
  | setSelection selection => exact recompute_frame _ .selectionChanged _
  | selectRelative shift => exact recompute_frame _ .selectionChanged _
  | clearSelection => exact recompute_frame _ .selectionChanged _
  | setHeightOverrides overrides => exact recompute_frame _ .metricsChanged _
  | takeScrollRequest => rfl
  | editSelection edit => rfl

/-- What a call does to the selection. -/
lemma step_selection (call : Call) :
    (c.step call).selection =
      match call with
      | .dataChanged flows => c.selection.retain fun id => flows.any fun f => f.id == id
      | .setSelection selection => selection
      | .selectRelative shift => c.selection.selectRelative c.view shift
      | .clearSelection => c.selection.clear
      | .editSelection edit => edit c.selection
      | _ => c.selection := by
  rw [step_frame]
  cases call with
  | setFilter filter flows =>
    simp only [changed]
    split <;> rfl
  | setSelection selection =>
    simp only [changed]
    rw [follow_frame]
  | selectRelative shift =>
    simp only [changed]
    rw [follow_frame]
  | clearSelection =>
    simp only [changed]
    rw [follow_frame]
  | _ => rfl

/-- The step in which every handler ends keeps the height of the viewport. -/
lemma map_height_recompute :
    (c.recompute trigger forced).value.1.viewport.map Viewport.height =
      c.viewport.map Viewport.height := by
  rw [recompute_viewport, Option.map_map]
  rfl

/-- A change of the selection keeps the height of the viewport. -/
lemma map_height_selectionChanged :
    c.selectionChanged.value.1.viewport.map Viewport.height =
      c.viewport.map Viewport.height := by
  rw [value_selectionChanged, map_height_recompute, follow_frame]

/-- What a call does to the height of the viewport.  A table that has not been measured is scrolled
in a viewport without height. -/
lemma map_height_step (call : Call) :
    (c.step call).viewport.map Viewport.height =
      match call with
      | .scroll _ | .scrollBy _ => some ((c.viewport.map Viewport.height).getD 0)
      | .resize height => some height
      | _ => c.viewport.map Viewport.height := by
  unfold step stepLogged
  cases call with
  | scroll top => exact map_height_recompute _ .scroll none
  | scrollBy delta => exact map_height_recompute _ .scroll none
  | resize height => exact map_height_recompute _ .resize none
  | dataChanged flows => exact map_height_recompute _ .dataChanged _
  | setFilter filter flows =>
    by_cases hsame : filter = c.filter
    · rw [hsame, value_setFilter_self]
    · rw [c.value_setFilter hsame]
      exact map_height_recompute _ .filterChanged _
  | setSelection selection => exact map_height_selectionChanged _
  | selectRelative shift => exact map_height_selectionChanged _
  | clearSelection => exact map_height_selectionChanged _
  | setHeightOverrides overrides => exact map_height_recompute _ .metricsChanged _
  | takeScrollRequest => rfl
  | editSelection edit => rfl

/-- A measured table stays measured. -/
lemma isSome_viewport_step (h : c.viewport.isSome = true) (call : Call) :
    (c.step call).viewport.isSome = true := by
  have hheight := congrArg Option.isSome (c.map_height_step call)
  rw [Option.isSome_map] at hheight
  rw [hheight]
  cases call <;> simp [h]

end Controller

end FlowWatch
