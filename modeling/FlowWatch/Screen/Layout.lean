import FlowWatch.Screen.FlowTable
import FlowWatch.Screen.LiveIndicator

/-!
# The screen

A filter bar on the first line, a status bar on the last, and the flow table between them.  On a
screen of one line only the status bar is left.
-/

namespace FlowWatch.Screen

/-- The three areas of a screen. -/
structure Areas where
  filterBar : Area
  table : Area
  statusBar : Area
deriving DecidableEq, Repr

/-- Shares an area among the bars and the table. -/
def Areas.ofArea (a : Area) : Areas :=
  let filter := if a.height < 2 then 0 else 1
  let status := min a.height 1
  { filterBar := ⟨a.left, a.top, a.width, filter⟩
    table := ⟨a.left, a.top + filter, a.width, a.height - 2⟩
    statusBar := ⟨a.left, a.top + (a.height - status), a.width, status⟩ }

/-- What one frame shows. -/
structure Scene where
  controller : Controller
  flows : Array Flow
  palette : Palette
  indicator : LiveIndicator

namespace Scene

/-- The switch of a kind, with the key that flips it. -/
def toggleSpans (s : Scene) (k : Kind) (number : Nat) : List Span :=
  [.bare " ", ⟨s!"[{number}]{k.label}",
    if s.controller.filter.hasKind k then s.palette.enabledToggle else s.palette.disabledToggle⟩]

/-- The filter bar: the switches of the kinds and the direction. -/
def filterBar (s : Scene) : List Span :=
  let filter := s.controller.filter
  [⟨" Kinds:", s.palette.status⟩] ++
    (Kind.all.zipIdx 1).flatMap (fun (k, number) => s.toggleSpans k number) ++
    [⟨s!"  Direction(d): {filter.direction.name}", s.palette.status⟩] ++
    (if filter.isIdentity then [] else [⟨"  a:reset", s.palette.status⟩])

/-- The rows of the committed window, counted from one. -/
def rangeText (s : Scene) : String :=
  let w := s.controller.window
  if w.isEmpty then "rows -" else s!"rows {w.start + 1}-{w.stop}"

/-- The identity selected last, if any. -/
def selectedText (s : Scene) : String :=
  match s.controller.selection.last with
  | some id => " | selected " ++ id.text
  | none => ""

/-- The status bar: the indicator, the counts, the rows and the selection. -/
def statusBar (s : Scene) : List Span :=
  [s.indicator.span,
    ⟨s!"{s.controller.view.len}/{s.flows.size} flows | " ++ s.rangeText ++ s.selectedText ++
      " | q:quit", s.palette.status⟩]

/-- Draws the scene on a screen of a size. -/
def render (s : Scene) (width height : Nat) : Buffer :=
  let areas := Areas.ofArea (.ofSize width height)
  let b := (Buffer.blank width height).drawBar areas.filterBar s.filterBar
  let b := b.drawTable areas.table s.palette s.controller s.flows
  b.drawBar areas.statusBar s.statusBar

end Scene

end FlowWatch.Screen
