import FlowWatch.Screen.Columns
import FlowWatch.Table.Controller

/-!
# The flow table

Draws the rows of the committed window below a header that stays in place.  The row at offset `o`
starts on the line `o` below the header, less the offset of the viewport; lines that would fall on
the header or below the table are cut off.
-/

namespace FlowWatch.Screen

/-- Where a table is drawn: its rectangle, and the lines of it that the header takes. -/
structure TablePlace where
  area : Area
  header : Nat
deriving DecidableEq, Repr

namespace TablePlace

/-- The place of a table with a header of a height, which is cut off at the end of the area. -/
def ofArea (area : Area) (headerHeight : Nat) : TablePlace :=
  ⟨area, min (min headerHeight Area.limit) area.height⟩

/-- The first line below the header. -/
def bodyTop (p : TablePlace) : Nat := p.area.top + p.header

/-- The line on which a row starts, which may lie outside of the area. -/
def firstLine (p : TablePlace) (c : Controller) (index : Nat) : Int :=
  let below := Offset.saturate (p.bodyTop + Offset.ofHeight (c.rowOffset index))
  Offset.saturate (below - c.viewportTop)

/-- The first body line that a row covers, and the line after the last. -/
def bodyLines (p : TablePlace) (c : Controller) (index : Nat) : Nat × Nat :=
  let first := p.firstLine c index
  ((max first p.bodyTop).toNat, (min (first + c.rowHeightOf index) p.area.bottom).toNat)

end TablePlace

/-- The style of the row of a flow at a view index. -/
def rowStyle (c : Controller) (palette : Palette) (index : Nat) (f : Flow) : Style :=
  palette.row index (c.selection.isSelected f.id) (c.selection.isHighlighted f.id)

namespace Buffer

/-- Restyles lines from `y` on. -/
def styleLines (b : Buffer) (area : Area) (y : Nat) (style : Style) : Nat → Buffer
  | 0 => b
  | count + 1 => (b.styleLine area.left y area.width style).styleLines area (y + 1) style count

/-- Draws one row: its style on every line that it covers, its text on its first line. -/
def drawRow (b : Buffer) (place : TablePlace) (columns : Columns) (palette : Palette)
    (c : Controller) (index : Nat) (f : Flow) : Buffer :=
  let (start, stop) := place.bodyLines c index
  let style := rowStyle c palette index f
  let b := b.styleLines place.area start style (stop - start)
  if start < stop && place.firstLine c index == start then
    b.drawLine place.area.left start place.area.width style (columns.row index f palette)
  else b

/-- Draws the table. -/
def drawTable (b : Buffer) (area : Area) (palette : Palette) (c : Controller)
    (flows : Array Flow) : Buffer :=
  if area.isEmpty then b
  else
    let place := TablePlace.ofArea area c.headerHeight
    let columns := Columns.ofWidth area.width
    let b := (c.visibleRecords flows).foldl
      (fun b (index, f) => b.drawRow place columns palette c index f) b
    if place.header = 0 then b
    else b.drawLine area.left area.top area.width .plain (columns.header palette)

end Buffer

end FlowWatch.Screen
