import FlowWatch.Flow.Basic
import FlowWatch.Screen.Style

/-!
# The palette

The styles of the flow table and the two bars, in colour or without.  Without colours a selection
still shows through reverse video and a highlight through bold text.
-/

namespace FlowWatch.Screen

/-- Colours are used unless an option or the environment forbids them. -/
def colorsEnabled (forbiddenByOption forbiddenByEnvironment : Bool) : Bool :=
  !forbiddenByOption && !forbiddenByEnvironment

/-- The styles of the screen. -/
structure Palette where
  colors : Bool
  header : Style
  /-- Every second row. -/
  stripe : Style
  selected : Style
  highlighted : Style
  enabledToggle : Style
  disabledToggle : Style
  status : Style
deriving DecidableEq, Repr

namespace Palette

/-- Bold text, whatever its colour. -/
def bold : Style := .adding .boldOnly

/-- The palette in colour. -/
def colored : Palette where
  colors := true
  header := bold.withForeground .cyan
  stripe := { Style.plain with background := some (.rgb 30 30 36) }
  selected := .adding .reversedOnly
  highlighted := .colored .yellow
  enabledToggle := bold.withForeground .green
  disabledToggle := .colored .darkGray
  status := .colored .gray

/-- The palette for a terminal without colours. -/
def monochrome : Palette where
  colors := false
  header := bold
  stripe := .plain
  selected := .adding .reversedOnly
  highlighted := bold
  enabledToggle := bold
  disabledToggle := .adding .dimOnly
  status := .plain

/-- The palette with colours or without. -/
def ofColors (enabled : Bool) : Palette := if enabled then colored else monochrome

/-- The colour of a kind. -/
def kindColor : Kind → Color
  | .http => .blue
  | .tcp => .magenta
  | .udp => .lightMagenta
  | .dns => .green

/-- The style of a kind's label. -/
def kind (p : Palette) (k : Kind) : Style :=
  if p.colors then .colored (kindColor k) else .plain

/-- The colour of a status code: success, redirection, anything else. -/
def statusColor (code : Nat) : Color :=
  if 100 ≤ code && code ≤ 299 then .green
  else if 300 ≤ code && code ≤ 399 then .yellow
  else .red

/-- The style of a status code. -/
def statusCode (p : Palette) (code : Nat) : Style :=
  if p.colors then .colored (statusColor code) else .plain

/-- The style of the row at a view index.  Stripes belong to indices, so they stay in place when
the window moves. -/
def row (p : Palette) (index : Nat) (selected highlighted : Bool) : Style :=
  let base := if index % 2 = 1 then p.stripe else .plain
  let base := if highlighted then base.patch p.highlighted else base
  if selected then base.patch p.selected else base

end Palette

end FlowWatch.Screen
