/-!
# Screen areas

Rectangles of terminal cells.  Coordinates count columns and rows from the top left corner, and the
highest one is `Area.limit`.
-/

namespace FlowWatch.Screen

/-- A rectangle of cells. -/
structure Area where
  left : Nat
  top : Nat
  width : Nat
  height : Nat
deriving DecidableEq, Repr

namespace Area

/-- The highest coordinate. -/
def limit : Nat := 65535

/-- The rectangle at a corner, cut off at the highest coordinate. -/
def ofCorner (left top width height : Nat) : Area :=
  ⟨left, top, min (left + width) limit - left, min (top + height) limit - top⟩

/-- The rectangle of a whole screen. -/
def ofSize (width height : Nat) : Area := ⟨0, 0, width, height⟩

/-- The column after the last. -/
def right (a : Area) : Nat := min (a.left + a.width) limit

/-- The row after the last. -/
def bottom (a : Area) : Nat := min (a.top + a.height) limit

/-- The rectangle holds no cell. -/
def isEmpty (a : Area) : Bool := a.width == 0 || a.height == 0

/-- A cell lies in the rectangle. -/
def contains (a : Area) (column row : Nat) : Bool :=
  a.left ≤ column && column < a.right && a.top ≤ row && row < a.bottom

end Area

end FlowWatch.Screen
