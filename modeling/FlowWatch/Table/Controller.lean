import FlowWatch.Log.Event
import FlowWatch.Table.Anchor
import FlowWatch.Table.RowMetrics
import FlowWatch.Table.Selection
import FlowWatch.Table.Window

/-!
# The table controller

A `Controller` reconciles the captured sequence, the filter, the selection and the scroll geometry
of one table.  Each of its handlers ends in the same step, `recompute`: the viewport is clamped into
the scroll extent, the window is found anew, and it is committed if it or the top has changed.

Offsets that the controller decides on are queued in `pendingScroll` for the host.  The scroll
container holds a header and the rows below it, so its extent is the height of both.

Handlers are `Logged` functions from a controller to a controller and the answer whether anything
was committed; `Controller.step` collects them as one function on the calls a host can make.
-/

namespace FlowWatch

/-- What is fixed when a table is set up. -/
structure TableSettings where
  rowHeight : RowHeight
  headerHeight : Nat
  overscan : Nat
  bottomEpsilon : Nat
deriving DecidableEq, Repr

/-- One-line rows without a header. -/
def TableSettings.default : TableSettings := ⟨.one, 0, defaultOverscan, defaultBottomEpsilon⟩

instance : Inhabited TableSettings := ⟨.default⟩

/-- Why a window is found anew. -/
inductive Trigger where
  | scroll
  | resize
  | dataChanged
  | filterChanged
  | selectionChanged
  | metricsChanged
deriving DecidableEq, Repr

/-- The name under which notes write a trigger. -/
def Trigger.name : Trigger → String
  | scroll => "Scroll"
  | resize => "Resize"
  | dataChanged => "DataChanged"
  | filterChanged => "FilterChanged"
  | selectionChanged => "SelectionChanged"
  | metricsChanged => "MetricsChanged"

/-- The committed window and the offset it was committed at. -/
structure WindowSnapshot where
  window : Window
  viewportTop : Int
deriving DecidableEq, Repr

namespace WindowSnapshot

/-- The snapshot of a table that has not been measured. -/
def unmeasured : WindowSnapshot := ⟨.empty, 0⟩

instance : Inhabited WindowSnapshot := ⟨unmeasured⟩

end WindowSnapshot

/-- The state of one table. -/
structure Controller where
  rule : WindowCalculator
  metrics : RowMetrics
  heights : Option HeightIndex
  anchor : ScrollAnchor
  follower : SelectionFollower
  filter : FilterSpec
  view : OrderedView
  selection : Selection
  viewport : Option Viewport
  committed : WindowSnapshot
  pendingScroll : Option Int
  commits : Nat

namespace Controller

/-- A table that has not been measured and shows nothing. -/
def ofSettings (settings : TableSettings) : Controller where
  rule := ⟨settings.rowHeight, settings.overscan⟩
  metrics := .uniform settings.rowHeight
  heights := none
  anchor := ⟨settings.bottomEpsilon⟩
  follower := .ofHeaderHeight settings.headerHeight
  filter := .everything
  view := .empty
  selection := .nothing
  viewport := none
  committed := .unmeasured
  pendingScroll := none
  commits := 0

/-! ## Derived state -/

/-- The committed window. -/
def window (c : Controller) : Window := c.committed.window

/-- The current offset, zero before the host is measured. -/
def viewportTop (c : Controller) : Int := (c.viewport.map Viewport.top).getD 0

/-- The uniform row height. -/
def rowHeight (c : Controller) : RowHeight := c.rule.rowHeight

/-- The height of the header above the rows. -/
def headerHeight (c : Controller) : Nat := c.follower.headerHeight

/-- The height of all rows together. -/
def contentHeight (c : Controller) : Nat :=
  match c.heights with
  | some index => index.total
  | none => c.metrics.contentHeight c.view.len

/-- The height of the header and the rows. -/
def scrollExtent (c : Controller) : Nat := c.headerHeight + c.contentHeight

/-- The viewport reaches the end of the rows; so does one that has not been measured. -/
def atBottom (c : Controller) : Bool :=
  match c.viewport with
  | some v => isAtBottom v c.scrollExtent c.anchor.epsilon
  | none => true

/-- The row that covers an offset below the header. -/
def indexAtOffset (c : Controller) (offset : Nat) : Option Nat :=
  match c.heights with
  | some index => index.lowerBound offset
  | none =>
    let index := offset / c.metrics.rowHeight.lines
    if index < c.view.len then some index else none

/-- The offset below the header and the height of a row. -/
def rowSpan (c : Controller) (index : Nat) : Nat × Nat :=
  match c.heights with
  | some heights => (heights.offsetOf (min index heights.len), c.metrics.heightOf index)
  | none => (index * c.metrics.rowHeight.lines, c.metrics.rowHeight.lines)

/-- The offset of the top edge of a row. -/
def rowOffset (c : Controller) (index : Nat) : Nat := (c.rowSpan index).1

/-- The height of a row. -/
def rowHeightOf (c : Controller) (index : Nat) : Nat := c.metrics.heightOf index

/-- The rows of the committed window with their flows. -/
def visibleRecords (c : Controller) (flows : Array Flow) : List (Nat × Flow) :=
  c.view.records flows c.window.start c.window.stop

/-! ## Finding and committing a window -/

/-- Moves the viewport to the offset asked for, or leaves it, inside the extent.  An offset that was
forced or had to be clamped is queued for the host. -/
def settle (c : Controller) (forced : Option Int) : Controller :=
  match c.viewport with
  | some v =>
    let top := clampScrollTop (forced.getD v.top) c.scrollExtent v.height
    { c with
      viewport := some (v.withTop top)
      pendingScroll := if forced.isSome || top != v.top then some top else c.pendingScroll }
  | none => c

/-- The snapshot that the current state calls for. -/
def snapshot (c : Controller) : WindowSnapshot :=
  match c.viewport with
  | some v => ⟨c.rule.compute c.view.len v c.heights, v.top⟩
  | none => .unmeasured

/-- The snapshot that the current state calls for, with what is noted while it is found. -/
def snapshotLogged (c : Controller) : Logged WindowSnapshot :=
  match c.viewport with
  | some v => do return ⟨← c.rule.computeLogged c.view.len v c.heights, v.top⟩
  | none => return .unmeasured

/-- What is noted when `next` replaces the committed snapshot. -/
def commitEvents (c : Controller) (trigger : Trigger) (next : WindowSnapshot) : List Log.Event :=
  if next = c.committed then []
  else [⟨.debug, .controller, "Committed window",
    [("trigger", trigger.name), ("start", toString next.window.start),
     ("end", toString next.window.stop), ("top", toString next.viewportTop),
     ("items", toString c.view.len)]⟩]

/-- Commits a snapshot that differs from the committed one, and tells whether it does. -/
def commit (c : Controller) (next : WindowSnapshot) : Controller × Bool :=
  if next = c.committed then (c, false)
  else ({ c with committed := next, commits := c.commits + 1 }, true)

/-- The step in which every handler ends. -/
def recompute (c : Controller) (trigger : Trigger) (forced : Option Int) :
    Logged (Controller × Bool) := do
  let c := c.settle forced
  let next ← c.snapshotLogged
  Logged.noteAll (c.commitEvents trigger next)
  return c.commit next

/-! ## Anchoring and following -/

/-- Whether the viewport sits at the bottom, and of which extent; none before it is measured. -/
def captureAnchor (c : Controller) : Option (BottomAnchor × Nat) :=
  (c.anchor.capture c.viewport c.scrollExtent).map fun b => (b, c.scrollExtent)

/-- The offset that brings a grown table back to the bottom it was captured at. -/
def restoredTop (c : Controller) (captured : Option (BottomAnchor × Nat)) : Option Int :=
  captured.bind fun (b, before) =>
    if c.scrollExtent ≤ before then none else b.restore c.viewport c.scrollExtent

/-- What is noted when a grown table is brought back to the bottom. -/
def anchorEvents (c : Controller) (captured : Option (BottomAnchor × Nat)) : List Log.Event :=
  match captured, c.restoredTop captured with
  | some (_, before), some top => [⟨.debug, .controller, "Re-anchored to bottom",
      [("before", toString before), ("after", toString c.scrollExtent), ("top", toString top)]⟩]
  | _, _ => []

/-- Brings a grown table back to the bottom it was captured at and finds its window anew. -/
def reanchor (c : Controller) (trigger : Trigger) (captured : Option (BottomAnchor × Nat)) :
    Logged (Controller × Bool) := do
  Logged.noteAll (c.anchorEvents captured)
  c.recompute trigger (c.restoredTop captured)

/-- Builds the height index for the rows of the view. -/
def rebuildHeights (c : Controller) : Controller :=
  { c with heights := c.metrics.heightIndex c.view.len }

/-- Follows a changed selection in a measured viewport. -/
def follow (c : Controller) : Controller × Option Int :=
  match c.viewport with
  | some v =>
    let (follower, top) := c.follower.follow c.selection c.view v c.rowSpan
    ({ c with follower }, top)
  | none => (c, none)

/-- What is noted when a newly selected row is scrolled into view. -/
def followEvents (top : Option Int) : List Log.Event :=
  top.toList.map fun top =>
    ⟨.debug, .controller, "Scrolling selection into view", [("top", toString top)]⟩

/-- The step after every change of the selection. -/
def selectionChanged (c : Controller) : Logged (Controller × Bool) := do
  let (c, top) := c.follow
  Logged.noteAll (followEvents top)
  c.recompute .selectionChanged top

/-! ## Handlers -/

/-- The host has scrolled. -/
def onScroll (c : Controller) (top : Int) : Logged (Controller × Bool) :=
  let height := (c.viewport.map Viewport.height).getD 0
  { c with viewport := some ⟨top, height⟩ }.recompute .scroll none

/-- Scrolls relative to the current offset. -/
def scrollBy (c : Controller) (delta : Int) : Logged (Controller × Bool) :=
  let top := Offset.saturate (c.viewportTop + delta)
  { c with pendingScroll := some top }.onScroll top

/-- The host has been measured or resized. -/
def onResize (c : Controller) (height : Nat) : Logged (Controller × Bool) :=
  let top := (c.viewport.map Viewport.top).getD 0
  { c with viewport := some ⟨top, height⟩ }.recompute .resize none

/-- The captured sequence has changed to `flows`. -/
def onDataChanged (c : Controller) (flows : Array Flow) : Logged (Controller × Bool) :=
  let kept := c.selection.retain fun id => flows.any fun f => f.id == id
  let changed := { c with selection := kept, view := .derive flows c.filter }.rebuildHeights
  changed.reanchor .dataChanged c.captureAnchor

/-- Another filter replaces the current one; the same one changes nothing. -/
def setFilter (c : Controller) (filter : FilterSpec) (flows : Array Flow) :
    Logged (Controller × Bool) :=
  if filter = c.filter then return (c, false)
  else do
    Logged.note ⟨.debug, .controller, "Filter changed", [("filter", filter.describe)]⟩
    let changed := { c with filter, view := .derive flows filter }.rebuildHeights
    changed.reanchor .filterChanged c.captureAnchor

/-- Another selection replaces the current one. -/
def setSelection (c : Controller) (selection : Selection) : Logged (Controller × Bool) :=
  { c with selection }.selectionChanged

/-- Moves the selection by `shift` rows of the view. -/
def selectRelative (c : Controller) (shift : Int) : Logged (Controller × Bool) :=
  { c with selection := c.selection.selectRelative c.view shift }.selectionChanged

/-- Selects nothing. -/
def clearSelection (c : Controller) : Logged (Controller × Bool) :=
  { c with selection := c.selection.clear }.selectionChanged

/-- Measured heights replace the current ones. -/
def setHeightOverrides (c : Controller) (overrides : Array Nat) : Logged (Controller × Bool) :=
  let changed := { c with metrics := ⟨c.metrics.rowHeight, overrides⟩ }.rebuildHeights
  changed.reanchor .metricsChanged c.captureAnchor

/-- Changes the selection without following it, as for highlighting. -/
def editSelection (c : Controller) (edit : Selection → Selection) : Controller :=
  { c with selection := edit c.selection }

/-- Hands the queued scroll to the host. -/
def takeScrollRequest (c : Controller) : Controller × Option Int :=
  ({ c with pendingScroll := none }, c.pendingScroll)

/-! ## Calls -/

/-- What a host can ask of a table. -/
inductive Call where
  | scroll (top : Int)
  | scrollBy (delta : Int)
  | resize (height : Nat)
  | dataChanged (flows : Array Flow)
  | setFilter (filter : FilterSpec) (flows : Array Flow)
  | setSelection (selection : Selection)
  | selectRelative (shift : Int)
  | clearSelection
  | setHeightOverrides (overrides : Array Nat)
  | takeScrollRequest
  | editSelection (edit : Selection → Selection)

/-- Carries out one call; the answer is whether a window was committed. -/
def stepLogged (c : Controller) : Call → Logged (Controller × Bool)
  | .scroll top => c.onScroll top
  | .scrollBy delta => c.scrollBy delta
  | .resize height => c.onResize height
  | .dataChanged flows => c.onDataChanged flows
  | .setFilter filter flows => c.setFilter filter flows
  | .setSelection selection => c.setSelection selection
  | .selectRelative shift => c.selectRelative shift
  | .clearSelection => c.clearSelection
  | .setHeightOverrides overrides => c.setHeightOverrides overrides
  | .takeScrollRequest => return (c.takeScrollRequest.1, false)
  | .editSelection edit => return (c.editSelection edit, false)

/-- The state after one call. -/
def step (c : Controller) (call : Call) : Controller := (c.stepLogged call).value.1

/-- One call commits a window. -/
def commitsOn (c : Controller) (call : Call) : Bool := (c.stepLogged call).value.2

/-- The state after a sequence of calls. -/
def run (c : Controller) (calls : List Call) : Controller := calls.foldl step c

theorem value_snapshotLogged (c : Controller) : c.snapshotLogged.value = c.snapshot := by
  unfold snapshotLogged snapshot
  cases c.viewport <;> rfl

@[simp]
theorem run_nil (c : Controller) : c.run [] = c := rfl

@[simp]
theorem run_cons (c : Controller) (call : Call) (calls : List Call) :
    c.run (call :: calls) = (c.step call).run calls := rfl

theorem run_append (c : Controller) (first second : List Call) :
    c.run (first ++ second) = (c.run first).run second := List.foldl_append

end Controller

end FlowWatch
