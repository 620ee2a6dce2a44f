import FlowWatch.Log.Event
import FlowWatch.Table.Geometry
import FlowWatch.Table.HeightIndex

/-!
# Row windows

Which rows of a long table are materialized for a viewport, and how much space stands above and
below them.  There are two ways to find a window:

* `uniform`: all rows have one height, so the first visible row is a quotient; further rows are
  kept on both sides.
* `measured`: rows have their own heights and are searched in a `HeightIndex`; nothing is kept
  beyond the rows that meet the viewport, and a viewport past the end is pulled back once.

A window starts on an even row, so that alternating stripes do not flip while it moves.
-/

namespace FlowWatch

/-- The rows from `start` to before `stop`, and the heights above and below them. -/
structure Window where
  start : Nat
  stop : Nat
  paddingTop : Nat
  paddingBottom : Nat
deriving DecidableEq, Repr

namespace Window

/-- No row and no space. -/
def empty : Window := ⟨0, 0, 0, 0⟩

instance : Inhabited Window := ⟨empty⟩

/-- The number of rows. -/
def len (w : Window) : Nat := w.stop - w.start

/-- The window holds no row. -/
def isEmpty (w : Window) : Bool := w.start == w.stop

/-- The row `index` is in the window. -/
def contains (w : Window) (index : Nat) : Bool := w.start ≤ index && index < w.stop

theorem contains_iff {w : Window} {index : Nat} :
    w.contains index = true ↔ w.start ≤ index ∧ index < w.stop := by
  simp [contains]

end Window

/-- Rows kept beyond each edge of the viewport unless a table asks for another number. -/
def defaultOverscan : Nat := 1

/-- The largest even number up to `index`. -/
def alignToStripe (index : Nat) : Nat := index - index % 2

theorem alignToStripe_le (index : Nat) : alignToStripe index ≤ index := Nat.sub_le ..

theorem alignToStripe_even (index : Nat) : alignToStripe index % 2 = 0 := by
  unfold alignToStripe
  omega

theorem lt_alignToStripe_add (index : Nat) : index < alignToStripe index + 2 := by
  unfold alignToStripe
  omega

/-- What finding a window needs to know of a table, apart from its rows. -/
structure WindowCalculator where
  rowHeight : RowHeight
  overscan : Nat
deriving DecidableEq, Repr

namespace WindowCalculator

/-- A calculator with the default overscan. -/
def ofRowHeight (rowHeight : RowHeight) : WindowCalculator := ⟨rowHeight, defaultOverscan⟩

/-- The least number of rows of height `rowHeight` that cover `height` lines. -/
def rowsCovering (height rowHeight : Nat) : Nat := (height + rowHeight - 1) / rowHeight

/-- The window of `count` rows of one height. -/
def uniform (rule : WindowCalculator) (count : Nat) (v : Viewport) : Window :=
  let rowHeight := rule.rowHeight.lines
  let top := (clampScrollTop v.top (count * rowHeight) v.height).toNat
  let start := alignToStripe (top / rowHeight - rule.overscan)
  let stop := min count (start + rowsCovering v.height rowHeight + rule.overscan * 2)
  { start, stop
    paddingTop := start * rowHeight
    paddingBottom := (count - stop) * rowHeight }

/-- The top at which measured rows are searched: a viewport that reaches past the end of the rows
is pulled back to it, but not above the first row. -/
def measuredTop (heights : HeightIndex) (v : Viewport) : Int :=
  let total := Offset.ofHeight heights.total
  if v.top > 0 ∧ total < v.bottom then max 0 (total - v.height) else v.top

/-- The window of measured rows for a viewport at `top`.  A negative `top` starts at the first row
and still ends `height` lines below `top`. -/
def measuredAt (heights : HeightIndex) (top : Int) (height : Nat) : Window :=
  let count := heights.len
  let bottom := Offset.saturate (top + height)
  let start := alignToStripe ((heights.lowerBound top.toNat).getD (count - 1))
  let stop :=
    if bottom < 0 then start
    else match heights.lowerBound bottom.toNat with
      | some row => row + 1
      | none => count
  { start, stop
    paddingTop := heights.offsetOf start
    paddingBottom := heights.total - heights.offsetOf stop }

/-- The window of measured rows. -/
def measured (heights : HeightIndex) (v : Viewport) : Window :=
  measuredAt heights (measuredTop heights v) v.height

/-- A viewport without height shows nothing, at the row where its clamped top lies. -/
def collapsed (rule : WindowCalculator) (count : Nat) (v : Viewport)
    (heights : Option HeightIndex) : Window :=
  let content := match heights with
    | some index => index.total
    | none => count * rule.rowHeight.lines
  let top := (clampScrollTop v.top content 0).toNat
  let row := match heights with
    | some index => (index.lowerBound top).getD count
    | none => min (top / rule.rowHeight.lines) count
  let offset := match heights with
    | some index => index.offsetOf row
    | none => row * rule.rowHeight.lines
  { start := row, stop := row, paddingTop := offset, paddingBottom := content - offset }

/-- The index, if it describes exactly `count` rows. -/
def matching (count : Nat) (heights : Option HeightIndex) : Option HeightIndex :=
  heights.filter fun index => index.len == count

/-- The window of `count` rows; an index of another number of rows is passed over. -/
def compute (rule : WindowCalculator) (count : Nat) (v : Viewport)
    (heights : Option HeightIndex) : Window :=
  if count = 0 then .empty
  else if v.height = 0 then rule.collapsed count v (matching count heights)
  else match matching count heights with
    | some index => measured index v
    | none => rule.uniform count v

/-- What is noted when a window has been found. -/
def events (count : Nat) (v : Viewport) (heights : Option HeightIndex) (w : Window) :
    List Log.Event :=
  if count = 0 then []
  else
    let mismatch := match heights with
      | some index =>
        if index.len = count then []
        else [⟨.warn, .window, "Height index does not match item count, using uniform rows",
          [("item_count", toString count), ("measured", toString index.len)]⟩]
      | none => []
    mismatch ++ [⟨.trace, .window, "Computed window",
      [("item_count", toString count), ("top", toString v.top), ("height", toString v.height),
       ("start", toString w.start), ("end", toString w.stop)]⟩]

/-- Finds the window and notes it. -/
def computeLogged (rule : WindowCalculator) (count : Nat) (v : Viewport)
    (heights : Option HeightIndex) : Logged Window := do
  let w := rule.compute count v heights
  Logged.noteAll (events count v heights w)
  return w

@[simp]
theorem value_computeLogged (rule : WindowCalculator) (count : Nat) (v : Viewport)
    (heights : Option HeightIndex) :
    (rule.computeLogged count v heights).value = rule.compute count v heights := rfl

end WindowCalculator

end FlowWatch
