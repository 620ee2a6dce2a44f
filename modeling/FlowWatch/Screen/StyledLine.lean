import FlowWatch.Screen.Buffer

/-!
# Styled lines

A line of text in pieces of different styles, and the two ways to draw it: as a line of the table,
which drops what it cannot show, and as a bar, which shows every cluster but line breaks.
-/

namespace FlowWatch.Screen

/-- A piece of text in one style. -/
structure Span where
  text : String
  style : Style
deriving DecidableEq, Repr

/-- A piece of text in the style of what surrounds it. -/
def Span.bare (text : String) : Span := ⟨text, .plain⟩

namespace Buffer

/-- Draws pieces from a column on in at most `room` columns.  The style of a piece goes on top of
the style of the line. -/
def drawLine (b : Buffer) (x y room : Nat) (base : Style) : List Span → Buffer
  | [] => b
  | span :: rest =>
    if room = 0 then b
    else
      let (b, stop) := b.writeText x y room span.text (base.patch span.style)
      b.drawLine stop y (room - (stop - x)) base rest

/-- The clusters of pieces with their styles, without line breaks. -/
def barClusters (spans : List Span) : List (List Char × Style) :=
  spans.flatMap fun span =>
    ((Text.clusters span.text.toList).filter (· ≠ ['\n'])).map (·, span.style)

/-- Draws clusters from a column on while the next one fits into `room` columns.  A cluster wider
than the bar itself is left out. -/
def drawClusters (b : Buffer) (x y room width : Nat) : List (List Char × Style) → Buffer
  | [] => b
  | (cluster, style) :: rest =>
    let w := Text.width cluster
    if width < w then b.drawClusters x y room width rest
    else if room < w then b
    else
      let b := if w = 0 then b else b.modify x y (·.write cluster style)
      b.drawClusters (x + w) y (room - w) width rest

/-- Draws a bar on the first line of an area. -/
def drawBar (b : Buffer) (area : Area) (spans : List Span) : Buffer :=
  if area.isEmpty then b
  else b.drawClusters area.left area.top area.width area.width (barClusters spans)

@[simp]
theorem width_drawLine (b : Buffer) (x y room : Nat) (base : Style) (spans : List Span) :
    (b.drawLine x y room base spans).width = b.width := by
  induction spans generalizing b x room with
  | nil => rfl
  | cons span rest ih =>
    unfold drawLine
    split
    · rfl
    · simp [ih, writeText]

@[simp]
theorem height_drawLine (b : Buffer) (x y room : Nat) (base : Style) (spans : List Span) :
    (b.drawLine x y room base spans).height = b.height := by
  induction spans generalizing b x room with
  | nil => rfl
  | cons span rest ih =>
    unfold drawLine
    split
    · rfl
    · simp [ih, writeText]

end Buffer

end FlowWatch.Screen
