import FlowWatch.Screen.Area
import FlowWatch.Screen.Style
import FlowWatch.Text.CellWidth
import FlowWatch.Text.Cluster

/-!
# Cell buffers

A grid of cells, row after row.  Every drawing operation keeps the size of the grid and ignores
cells outside of it.  A cluster that takes more than one cell stands in the first of them.
-/

namespace FlowWatch.Screen

/-- One cell: the cluster that starts in it, and its looks. -/
structure Cell where
  symbol : List Char
  looks : Looks
deriving DecidableEq, Repr

namespace Cell

/-- A space in the terminal's own colours. -/
def blank : Cell := ⟨[' '], .blank⟩

instance : Inhabited Cell := ⟨blank⟩

/-- The same cluster with changed looks. -/
def styled (c : Cell) (style : Style) : Cell := { c with looks := c.looks.apply style }

/-- Another cluster with changed looks. -/
def write (c : Cell) (symbol : List Char) (style : Style) : Cell :=
  ⟨symbol, c.looks.apply style⟩

/-- The number of columns that the cluster takes. -/
def width (c : Cell) : Nat := Text.width c.symbol

end Cell

/-- A grid of cells. -/
structure Buffer where
  width : Nat
  height : Nat
  cells : Array Cell
deriving DecidableEq, Repr

namespace Buffer

/-- A grid of blank cells. -/
def blank (width height : Nat) : Buffer := ⟨width, height, Array.replicate (width * height) .blank⟩

/-- The grid as a rectangle. -/
def area (b : Buffer) : Area := .ofSize b.width b.height

/-- The cell at a position. -/
def get? (b : Buffer) (x y : Nat) : Option Cell :=
  if x < b.width then b.cells[y * b.width + x]? else none

/-- Changes the cell at a position. -/
def modify (b : Buffer) (x y : Nat) (change : Cell → Cell) : Buffer :=
  if x < b.width then { b with cells := b.cells.modify (y * b.width + x) change } else b

/-- Changes `count` cells of a row. -/
def modifyRun (b : Buffer) (x y : Nat) (change : Cell → Cell) : Nat → Buffer
  | 0 => b
  | count + 1 => (b.modify x y change).modifyRun (x + 1) y change count

@[simp]
theorem width_modify (b : Buffer) (x y : Nat) (change : Cell → Cell) :
    (b.modify x y change).width = b.width := by
  unfold modify; split <;> rfl

@[simp]
theorem height_modify (b : Buffer) (x y : Nat) (change : Cell → Cell) :
    (b.modify x y change).height = b.height := by
  unfold modify; split <;> rfl

@[simp]
theorem width_modifyRun (b : Buffer) (x y : Nat) (change : Cell → Cell) (count : Nat) :
    (b.modifyRun x y change count).width = b.width := by
  induction count generalizing b x with
  | zero => rfl
  | succ count ih => simp [modifyRun, ih]

@[simp]
theorem height_modifyRun (b : Buffer) (x y : Nat) (change : Cell → Cell) (count : Nat) :
    (b.modifyRun x y change count).height = b.height := by
  induction count generalizing b x with
  | zero => rfl
  | succ count ih => simp [modifyRun, ih]

/-- Restyles one line of a grid, from a column on. -/
def styleLine (b : Buffer) (x y width : Nat) (style : Style) : Buffer :=
  b.modifyRun x y (·.styled style) (min width (b.width - x))

/-- A cluster that a line can show: without controls and of some width. -/
def isShown (cluster : List Char) : Bool :=
  !cluster.any Text.isControl && Text.width cluster != 0

/-- Writes clusters from a column on while the next one fits into `room` columns, and blanks the
columns that a wide cluster covers; the answer tells the column after the last. -/
def writeClusters (b : Buffer) (x y room : Nat) (style : Style) :
    List (List Char) → Buffer × Nat
  | [] => (b, x)
  | cluster :: rest =>
    let width := Text.width cluster
    if width ≤ room then
      let b := b.modify x y (·.write cluster style)
      let b := b.modifyRun (x + 1) y (fun _ => .blank) (width - 1)
      writeClusters b (x + width) y (room - width) style rest
    else (b, x)

/-- Writes a text from a column on in at most `room` columns; the answer tells the column after the
last. -/
def writeText (b : Buffer) (x y room : Nat) (text : String) (style : Style) : Buffer × Nat :=
  b.writeClusters x y (min room (b.width - x)) style ((Text.clusters text.toList).filter isShown)

@[simp]
theorem width_styleLine (b : Buffer) (x y width : Nat) (style : Style) :
    (b.styleLine x y width style).width = b.width := width_modifyRun ..

@[simp]
theorem height_styleLine (b : Buffer) (x y width : Nat) (style : Style) :
    (b.styleLine x y width style).height = b.height := height_modifyRun ..

@[simp]
theorem width_writeClusters (b : Buffer) (x y room : Nat) (style : Style)
    (clusters : List (List Char)) : (b.writeClusters x y room style clusters).1.width = b.width := by
  induction clusters generalizing b x room with
  | nil => rfl
  | cons cluster rest ih =>
    unfold writeClusters
    simp only
    split
    · simp [ih]
    · rfl

@[simp]
theorem height_writeClusters (b : Buffer) (x y room : Nat) (style : Style)
    (clusters : List (List Char)) :
    (b.writeClusters x y room style clusters).1.height = b.height := by
  induction clusters generalizing b x room with
  | nil => rfl
  | cons cluster rest ih =>
    unfold writeClusters
    simp only
    split
    · simp [ih]
    · rfl

/-- The cells of a row. -/
def row (b : Buffer) (y : Nat) : List Cell :=
  (b.cells.extract (y * b.width) ((y + 1) * b.width)).toList

/-- The text of a row, without the spaces at its end. -/
def lineText (b : Buffer) (y : Nat) : String :=
  let symbols := (b.row y).flatMap Cell.symbol
  String.ofList (symbols.reverse.dropWhile (· == ' ')).reverse

/-- The texts of all rows. -/
def lines (b : Buffer) : List String := (List.range b.height).map b.lineText

/-- A stretch of cells of equal looks. -/
structure Run where
  start : Nat
  length : Nat
  looks : Looks
deriving DecidableEq, Repr

/-- The stretches of equal looks of cells that follow a stretch read so far. -/
def runsFrom (current : Run) : List Cell → List Run
  | [] => [current]
  | c :: rest =>
    if c.looks = current.looks then runsFrom { current with length := current.length + 1 } rest
    else current :: runsFrom ⟨current.start + current.length, 1, c.looks⟩ rest

/-- The stretches of a row that look unlike blank cells. -/
def styledRuns (b : Buffer) (y : Nat) : List Run :=
  match b.row y with
  | [] => []
  | c :: rest => (runsFrom ⟨0, 1, c.looks⟩ rest).filter fun run => run.looks ≠ .blank

end Buffer

end FlowWatch.Screen
