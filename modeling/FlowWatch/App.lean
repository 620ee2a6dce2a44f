import FlowWatch.Capture.Source
import FlowWatch.Keys
import FlowWatch.Screen.Layout
import FlowWatch.Screen.Terminal
import FlowWatch.Store

/-!
# The application

The state behind the screen and what happens to it: flows arrive from the source, keys and the mouse
move the table, the terminal changes its size, and frames are drawn.  The height of the table on the
screen is always the height of the controller's viewport: both change together in `App.resize`.
-/

namespace FlowWatch

/-- What a run of the application is set up with. -/
structure AppOptions where
  table : TableSettings
  tickMillis : Nat
  palette : Screen.Palette

/-- The state of the application. -/
structure App where
  store : FlowStore
  controller : Controller
  source : Capture.Source
  bindings : KeyBindings
  palette : Screen.Palette
  tickMillis : Nat
  blinkOn : Bool
  /-- Where the table was last laid out. -/
  tableArea : Screen.Area
  canvas : Screen.Canvas

namespace App

/-- The rows that one notch of the mouse wheel scrolls. -/
def wheelRows : Int := 3

/-- Where the table stands on a screen of a size. -/
def tableAreaOf (width height : Nat) : Screen.Area :=
  (Screen.Areas.ofArea (.ofSize width height)).table

/-- An application that has not been laid out and has read nothing. -/
def ofOptions (source : Capture.Source) (options : AppOptions) (width height : Nat) : App where
  store := .empty
  controller := .ofSettings options.table
  source := source
  bindings := .standard
  palette := options.palette
  tickMillis := options.tickMillis
  blinkOn := true
  tableArea := tableAreaOf width height
  canvas := .ofSize width height

/-- Passes a call on to the controller. -/
def control (a : App) (call : Logged (Controller × Bool)) : Logged App := do
  let (controller, _) ← call
  return { a with controller }

/-! ## Size and data -/

/-- Lays the table out for a screen of a size. -/
def resize (a : App) (width height : Nat) : Logged App := do
  let table := tableAreaOf width height
  Logged.note ⟨.debug, .screen, "Handling resize",
    [("width", toString width), ("height", toString height),
      ("table_height", toString table.height)]⟩
  { a with tableArea := table }.control (a.controller.onResize table.height)

/-- Applies messages to the store; the answer tells whether it has changed. -/
def ingest (a : App) (messages : List Message) : Logged (App × Bool) := do
  let (store, changed) ← a.store.applyAll messages
  if changed then
    Logged.note ⟨.debug, .screen, "Applied flow messages",
      [("count", toString messages.length), ("total", toString store.len)]⟩
    let (controller, _) ← a.controller.onDataChanged store.flows
    return ({ a with store, controller }, true)
  else return ({ a with store }, false)

/-- Takes in what the source has; the answer tells whether the store has changed. -/
def poll (a : App) (contents : FileState) (now : Int) : Logged (App × Except IoError Bool) := do
  let (source, outcome) ← a.source.poll contents now
  let a := { a with source }
  match outcome with
  | .error e => return (a, .error e)
  | .ok messages =>
    let (a, changed) ← a.ingest messages
    return (a, .ok changed)

/-- A poll is one of the source, and what it delivers is taken in. -/
theorem value_poll (a : App) (contents : FileState) (now : Int) :
    (a.poll contents now).value =
      match (a.source.poll contents now).value with
      | (source, .error e) => ({ a with source }, .error e)
      | (source, .ok messages) =>
        (({ a with source }.ingest messages).value.1,
          .ok ({ a with source }.ingest messages).value.2) := by
  rw [poll, Logged.value_bind]
  rcases (a.source.poll contents now).value with ⟨source, e | messages⟩ <;> rfl

/-- Lays a new application out and takes in the first messages. -/
def start (source : Capture.Source) (options : AppOptions) (width height : Nat)
    (contents : FileState) (now : Int) : Logged (Except IoError App) := do
  let a ← (ofOptions source options width height).resize width height
  let (a, outcome) ← a.poll contents now
  match outcome with
  | .error e => return .error e
  | .ok _ =>
    Logged.note ⟨.info, .screen, "Initial load",
      [("flows", toString a.store.len), ("live", toString a.source.isLive)]⟩
    return .ok a

/-- An application starts with what the first poll leads to. -/
theorem value_start (source : Capture.Source) (options : AppOptions) (width height : Nat)
    (contents : FileState) (now : Int) :
    (start source options width height contents now).value =
      match (((ofOptions source options width height).resize width height).value.poll contents
        now).value with
      | (_, .error e) => .error e
      | (a, .ok _) => .ok a := by
  rw [start, Logged.value_bind, Logged.value_bind]
  rcases (poll _ contents now).value with ⟨a, e | changed⟩ <;> rfl

/-! ## Keys and the mouse -/

/-- Puts another filter into force. -/
def setFilter (a : App) (filter : FilterSpec) : Logged App :=
  a.control (a.controller.setFilter filter a.store.flows)

/-- Does what a user has asked for. -/
def act (a : App) (action : KeyAction) : Logged App :=
  let c := a.controller
  match action.selectionShift with
  | some shift => a.control (c.selectRelative shift)
  | none =>
    match action with
    | .clearSelection => a.control c.clearSelection
    | .scrollUp => a.control (c.scrollBy (-c.rowHeight.offset))
    | .scrollDown => a.control (c.scrollBy c.rowHeight.offset)
    | .toggleKind kind => a.setFilter (c.filter.toggled kind)
    | .cycleDirection => a.setFilter c.filter.cycled
    | .resetFilter => a.setFilter .everything
    | _ => return a

/-- Handles a key; the answer tells whether it ends the application. -/
def handleKey (a : App) (key : KeyEvent) : Logged (App × Bool) :=
  match a.bindings.get? key with
  | none => return (a, false)
  | some .quit => return (a, true)
  | some action => do return (← a.act action, false)

/-- The view row that is shown at a cell of the screen; none while the viewport begins above the first
row. -/
def rowAt? (a : App) (column row : Nat) : Option Nat :=
  if a.tableArea.contains column row then
    let line := row - a.tableArea.top
    if a.controller.headerHeight ≤ line then
      match a.controller.viewportTop with
      | .ofNat top => a.controller.indexAtOffset (top + (line - a.controller.headerHeight))
      | .negSucc _ => none
    else none
  else none

/-- Selects the flow shown at a cell of the screen. -/
def click (a : App) (column row : Nat) : Logged App :=
  match (a.rowAt? column row).bind a.controller.view.idAt with
  | some id => a.control (a.controller.setSelection (a.controller.selection.select [id]))
  | none => return a

/-- Handles a mouse event: the wheel scrolls, a press of the left button selects. -/
def handleMouse (a : App) (mouse : MouseEvent) : Logged App :=
  let rows := wheelRows * a.controller.rowHeight.offset
  match mouse.kind with
  | .wheelUp => a.control (a.controller.scrollBy (-rows))
  | .wheelDown => a.control (a.controller.scrollBy rows)
  | .leftPress => a.click mouse.column mouse.row
  | .other => return a

/-! ## Drawing -/

/-- Gets ready to draw on a screen of a size: the table is laid out again if it has moved, and the
queued scroll request is taken. -/
def prepare (a : App) (width height : Nat) : Logged App := do
  let a ← if a.tableArea = tableAreaOf width height then pure a else a.resize width height
  let (controller, request) := a.controller.takeScrollRequest
  Logged.noteAll <| match request with
    | some top => [⟨.debug, .screen, "Scrolled to controller offset", [("top", toString top)]⟩]
    | none => []
  return { a with controller }

/-- What the next frame shows. -/
def scene (a : App) : Screen.Scene where
  controller := a.controller
  flows := a.store.flows
  palette := a.palette
  indicator := ⟨.ofState a.source.isLive a.controller.atBottom, a.blinkOn⟩

/-- Draws a frame; the answer is the application and the display after it. -/
def paint (a : App) (display : Screen.Buffer) : App × Screen.Buffer :=
  let (canvas, display) := a.canvas.draw display a.scene.render
  ({ a with canvas }, display)

/-- Gets ready and draws a frame. -/
def draw (a : App) (display : Screen.Buffer) : Logged (App × Screen.Buffer) := do
  return (← a.prepare display.width display.height).paint display

/-- One tick of the clock, after the source has been polled: the indicator of a live source
blinks. -/
def blink (a : App) : App := if a.source.isLive then { a with blinkOn := !a.blinkOn } else a

end App

end FlowWatch
