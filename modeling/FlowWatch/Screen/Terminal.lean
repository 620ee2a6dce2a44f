import FlowWatch.Screen.Buffer

/-!
# Terminals

A terminal shows a grid of cells.  A `Canvas` remembers the frame drawn last, so that the next one
sends only the cells that differ; a cell covered by a wide cluster before it is not sent.  After the
size of the terminal has changed everything is cleared and sent.
-/

namespace FlowWatch.Screen

/-- The memory of what has been drawn: the size it was drawn for and the last frame. -/
structure Canvas where
  width : Nat
  height : Nat
  shown : Buffer
deriving DecidableEq, Repr

namespace Buffer

/-- The grid of another size that has the same cells in the same sequence, with blank cells at its
end. -/
def resize (b : Buffer) (width height : Nat) : Buffer :=
  let size := width * height
  ⟨width, height, b.cells.take size ++ Array.replicate (size - b.cells.size) .blank⟩

/-- Sends the cells of a frame from `i` on that differ from the frame before.  `touched` counts the
cells that a wide cluster of either frame may have damaged, `covered` those under a wide cluster of
the new one. -/
def sendFrom (next previous : Array Cell) (i touched covered : Nat) (display : Array Cell) :
    Array Cell :=
  if h : i < next.size then
    let cell := next[i]
    let old := previous[i]?.getD .blank
    let display :=
      if (cell ≠ old || 0 < touched) && covered = 0 then display.setIfInBounds i cell else display
    sendFrom next previous (i + 1) (max (max cell.width old.width) touched - 1) (cell.width - 1)
      display
  else display
termination_by next.size - i

/-- What a terminal shows after the differences between two frames have been sent to it. -/
def send (display next previous : Buffer) : Buffer :=
  { display with cells := sendFrom next.cells previous.cells 0 0 0 display.cells }

end Buffer

namespace Canvas

/-- An empty canvas for a terminal of a size. -/
def ofSize (width height : Nat) : Canvas := ⟨width, height, .blank width height⟩

/-- Draws a frame on a display of the given size; the answer is the canvas and the display after
it. -/
def draw (c : Canvas) (display : Buffer) (render : Nat → Nat → Buffer) : Canvas × Buffer :=
  let same := c.width = display.width && c.height = display.height
  let c := if same then c else .ofSize display.width display.height
  let display := if same then display else .blank display.width display.height
  let frame := render c.width c.height
  ({ c with shown := frame }, display.send frame c.shown)

end Canvas

end FlowWatch.Screen
