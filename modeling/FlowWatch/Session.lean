import FlowWatch.App
import FlowWatch.Failure
import FlowWatch.Log.Record

/-!
# Sessions

A session takes the terminal over, runs the application over what happens at the terminal, and gives
the terminal back.  What happens is a script: input, ticks of the clock, failures, and changes that
go on behind the application's back.  Everything that the session does to the terminal stands in the
trace of the `Console`, in order.
-/

namespace FlowWatch

/-- A call that changes the mode of the terminal. -/
inductive TerminalCall where
  | enableRawMode
  | enterAlternateScreen
  | enableMouseCapture
  | disableRawMode
  | disableMouseCapture
  | leaveAlternateScreen
deriving DecidableEq, Repr

/-- The name of a call. -/
def TerminalCall.name : TerminalCall → String
  | enableRawMode => "enable_raw_mode"
  | enterAlternateScreen => "EnterAlternateScreen"
  | enableMouseCapture => "EnableMouseCapture"
  | disableRawMode => "disable_raw_mode"
  | disableMouseCapture => "DisableMouseCapture"
  | leaveAlternateScreen => "LeaveAlternateScreen"

/-- What the event loop is told. -/
inductive Input where
  | key (key : KeyEvent)
  | mouse (mouse : MouseEvent)
  | resize (width height : Nat)
  /-- An event that means nothing to the application. -/
  | other
deriving DecidableEq, Repr

/-- One thing that happens while the event loop waits. -/
inductive ScriptItem where
  | input (input : Input)
  /-- The wait is over without an event, at a time of the clock: in nanoseconds since the session has
  started. -/
  | tick (now : Int := 0)
  /-- Waiting fails. -/
  | failure (text : String)
  /-- The terminal changes its size, and says nothing. -/
  | quietResize (width height : Nat)
  /-- The capture file changes. -/
  | fileChange (change : FileState → FileState)
  /-- From now on these operations of the terminal fail, with these texts. -/
  | breakage (failures : List (String × String))

/-- What a session has done. -/
inductive TraceEntry where
  | call (call : TerminalCall)
  /-- A frame has been drawn; the whole display after it. -/
  | frame (display : Screen.Buffer)
  /-- A script item has been taken, by its number, while the event loop waited so many
  milliseconds. -/
  | item (number millis : Nat)
deriving DecidableEq, Repr

/-- The world of a session: the terminal, the files, and what has been done. -/
structure Console where
  display : Screen.Buffer
  /-- The operations of the terminal that fail, with the texts of the failures. -/
  failures : List (String × String)
  files : Files
  /-- The file that the script changes. -/
  scriptPath : String
  /-- The file that the source reads. -/
  capturePath : String
  /-- The open log file, unless there is none or it has been deleted. -/
  log : Option Log.Sink
  taken : Nat
  trace : Array TraceEntry

namespace Console

/-- Adds to the trace. -/
def record (c : Console) (entry : TraceEntry) : Console := { c with trace := c.trace.push entry }

/-- What stands at the path of the capture file. -/
def capture (c : Console) : FileState := c.files.get c.capturePath

/-- Gives the terminal another size. -/
def withSize (c : Console) (width height : Nat) : Console :=
  { c with display := c.display.resize width height }

/-- Writes events to the log. -/
def write (c : Console) (events : List Log.Event) : Console :=
  match c.log with
  | some sink => { c with files := sink.write c.files events }
  | none => c

/-- Writing to the log changes nothing but files. -/
theorem write_frame (c : Console) (events : List Log.Event) :
    c.write events = { c with files := (c.write events).files } := by
  unfold write
  split <;> rfl

/-- Changes the file of the script; a log that is deleted is not written again. -/
def changeFile (c : Console) (change : FileState → FileState) : Console :=
  let files := c.files.set c.scriptPath (change (c.files.get c.scriptPath))
  { c with files, log := c.log.filter (·.isThere files) }

/-- Takes a script item. -/
def take (c : Console) (millis : Nat) : Console :=
  { c.record (.item c.taken millis) with taken := c.taken + 1 }

end Console

/-- A step of a session: it changes the world, notes events, and succeeds or fails. -/
def SessionStep (α : Type) : Type := Console → Logged (Console × Except SessionFailure α)

namespace SessionStep

variable {α β : Type}

instance : Monad SessionStep where
  pure a := fun c => pure (c, .ok a)
  bind x f := fun c => do
    let (c, outcome) ← x c
    match outcome with
    | .ok a => f a c
    | .error e => pure (c, .error e)

/-- How a step goes on: with the value of the one before, unless that has failed. -/
theorem value_bind (x : SessionStep α) (f : α → SessionStep β) (c : Console) :
    ((x >>= f) c).value =
      match (x c).value with
      | (after, .ok a) => (f a after).value
      | (after, .error e) => (after, .error e) := by
  have hbind : (x >>= f) c = x c >>= fun result =>
      match result.2 with
      | .ok a => f a result.1
      | .error e => pure (result.1, .error e) := rfl
  rw [hbind, Logged.value_bind]
  rcases (x c).value with ⟨after, e | a⟩ <;> rfl

/-- The step that fails. -/
def fail (e : SessionFailure) : SessionStep α := fun c => pure (c, .error e)

/-- The step that only changes the world. -/
def change (f : Console → Console) : SessionStep Unit := fun c => pure (f c, .ok ())

/-- The step that only looks at the world. -/
def look (f : Console → α) : SessionStep α := fun c => pure (c, .ok (f c))

/-- The step that only notes events; they are written to the log. -/
def ofLogged (x : Logged α) : SessionStep α := fun c => ⟨(c.write x.events, .ok x.value), x.events⟩

/-- Runs a step, and tells how it ended instead of failing. -/
def attempt (x : SessionStep α) : SessionStep (Except SessionFailure α) := fun c => do
  let (c, outcome) ← x c
  return (c, .ok outcome)

/-- Fails where an operation of the terminal is broken. -/
def operate (name : String) : SessionStep Unit := fun c =>
  match c.failures.lookup name with
  | some text => pure (c, .error (.terminal (.other text)))
  | none => pure (c, .ok ())

/-- Makes a call to the terminal; it stands in the trace even if it fails. -/
def call (call : TerminalCall) : SessionStep Unit := do
  change (·.record (.call call))
  operate call.name

/-- The size of the terminal. -/
def size : SessionStep (Nat × Nat) := do
  operate "size"
  look fun c => (c.display.width, c.display.height)

/-- The terminal tells its size, unless that is broken. -/
theorem value_size (c : Console) :
    (size c).value =
      match c.failures.lookup "size" with
      | some text => (c, .error (.terminal (.other text)))
      | none => (c, .ok (c.display.width, c.display.height)) := by
  rw [size, value_bind, operate]
  cases c.failures.lookup "size" <;> rfl

end SessionStep

namespace Session

open SessionStep

/-- Turns a failure of the source into one of the session. -/
def inputOutcome {α : Type} : Except IoError α → SessionStep α
  | .ok a => pure a
  | .error e => fail (.input (.io e))

/-- Takes the terminal over. -/
def takeOver : SessionStep Unit := do
  call .enableRawMode
  call .enterAlternateScreen
  call .enableMouseCapture

/-- Gives the terminal back. -/
def giveBack : SessionStep Unit := do
  call .disableRawMode
  call .disableMouseCapture
  call .leaveAlternateScreen

/-- Takes the terminal over and loads the first flows.  The clock counts from this time on. -/
def start (source : Capture.Source) (options : AppOptions) : SessionStep App := do
  takeOver
  let (width, height) ← size
  let contents ← look (·.capture)
  inputOutcome (← ofLogged (App.start source options width height contents 0))

/-- Draws a frame. -/
def draw (a : App) : SessionStep App := do
  let (width, height) ← size
  let a ← ofLogged (a.prepare width height)
  operate "draw"
  let (a, display) ← look fun c => a.paint c.display
  change fun c => { c with display }.record (.frame display)
  return a

/-- Handles an input event; the answer is nothing where it ends the session. -/
def handle (a : App) : Input → SessionStep (Option App)
  | .key key => do
    let (a, quit) ← ofLogged (a.handleKey key)
    if quit then return none else return some (← draw a)
  | .mouse mouse => do return some (← draw (← ofLogged (a.handleMouse mouse)))
  | .resize width height => do
    change (·.withSize width height)
    return some (← draw (← ofLogged (a.resize width height)))
  | .other => return some a

/-- Polls the source after a tick, and draws if anything that is shown may have changed. -/
def tick (a : App) (now : Int) : SessionStep App := do
  let contents ← look (·.capture)
  let (a, outcome) ← ofLogged (a.poll contents now)
  let changed ← inputOutcome outcome
  let a := a.blink
  if changed || a.source.isLive then draw a else return a

/-- Takes one item of the script; the answer is nothing where it ends the session. -/
def step (a : App) (item : ScriptItem) : SessionStep (Option App) := do
  change (·.take a.tickMillis)
  match item with
  | .input input => handle a input
  | .tick now => return some (← tick a now)
  | .failure text => fail (.terminal (.other text))
  | .quietResize width height =>
    change (·.withSize width height)
    return some a
  | .fileChange f =>
    change (·.changeFile f)
    return some a
  | .breakage failures =>
    change fun c => { c with failures }
    return some a

/-- Takes items of the script in order; the answer is nothing where one of them ends the session. -/
def advance (a : App) : List ScriptItem → SessionStep (Option App)
  | [] => return some a
  | item :: rest => do
    match ← step a item with
    | some a => advance a rest
    | none => return none

/-- The event loop: waits for input, and handles it, until the user ends it.  When the script is over,
waiting fails. -/
def loop (a : App) (script : List ScriptItem) : SessionStep Unit := do
  match ← advance a script with
  | some _ => fail (.terminal (.other "script ended"))
  | none => return ()

/-- Runs a session.  Once the application has started, the terminal is given back however the event
loop ends. -/
def run (source : Capture.Source) (options : AppOptions) (script : List ScriptItem) :
    SessionStep Unit := do
  let a ← start source options
  let outcome ← attempt do
    let a ← draw a
    loop a script
  giveBack
  match outcome with
  | .ok () => return ()
  | .error e => fail e

end Session

end FlowWatch
