import FlowWatch.Screen.StyledLine

/-!
# The live indicator

Tells whether data still arrives and whether the table follows it.
-/

namespace FlowWatch.Screen

/-- How the table stands to the end of the data. -/
inductive TailMode where
  /-- No more data will arrive. -/
  | still
  /-- Data arrives and the viewport stays at the bottom. -/
  | following
  /-- Data arrives, but the viewport has been moved away. -/
  | paused
deriving DecidableEq, Repr

namespace TailMode

/-- The mode of a table over a source. -/
def ofState (sourceLive atBottom : Bool) : TailMode :=
  if !sourceLive then still else if atBottom then following else paused

/-- The name under which a mode is written. -/
def name : TailMode → String
  | still => "Static"
  | following => "Following"
  | paused => "Paused"

end TailMode

/-- The indicator in a mode and a blink phase. -/
structure LiveIndicator where
  mode : TailMode
  blinkOn : Bool
deriving DecidableEq, Repr

/-- The text of the indicator.  It blinks only while the table follows. -/
def LiveIndicator.span (i : LiveIndicator) : Span :=
  match i.mode with
  | .still => ⟨"[LIVE] ", .colored .gray⟩
  | .following => if i.blinkOn then ⟨"[LIVE] ", .colored .green⟩ else .bare ""
  | .paused => ⟨"[PAUSED] ", .colored .yellow⟩

end FlowWatch.Screen
