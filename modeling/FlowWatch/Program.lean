import FlowWatch.CommandLine
import FlowWatch.Log.Record
import FlowWatch.Session
import FlowWatch.Settings.Resolve

/-!
# The program

One run from the arguments to the exit code: the settings are resolved, the log is opened, the
source is opened, and the session runs.  The first of these that fails ends the run.
-/

namespace FlowWatch

/-- Why a run failed. -/
inductive ProgramFailure where
  | settings (error : SettingsError)
  | log (failure : LogFailure)
  | input (failure : InputFailure)
  | session (failure : SessionFailure)

/-- The failure in full. -/
def ProgramFailure.detail : ProgramFailure → String
  | settings error => error.detail
  | log failure => failure.detail
  | input failure => failure.detail
  | session failure => failure.detail

/-- What a run finds: files, environment, the time, and a terminal with what happens at it. -/
structure World where
  files : Files
  environment : Environment
  time : Stamp
  width : Nat
  height : Nat
  failures : List (String × String)
  scriptPath : String
  script : List ScriptItem

/-- How a run ended, and what it has left behind. -/
structure Outcome where
  code : Nat
  stdout : String
  stderr : String
  trace : Array TraceEntry
  files : Files

namespace Program

/-- Opens a log file, and makes its directory if need be.  A path without a file name is refused
after that; a file that cannot be opened is not written. -/
def openLog (files : Files) (path : String) (filter : Log.Filter) (time : Stamp) :
    Except LogFailure (Files × Option Log.Sink) := do
  let directory := Path.parent? path
  let files ← match directory with
    | none => pure files
    | some directory =>
      match files.makeDirectories directory with
      | .ok files => pure files
      | .error e => throw (.directoryCreation directory e)
  match Path.fileName? path with
  | none => throw (.invalidPath path)
  | some name =>
    match files.openFile (directory.getD "") name with
    | .ok (files, location) => return (files, some ⟨location, filter, time⟩)
    | .error _ => return (files, none)

/-- The path of the capture file, if there is one. -/
def capturePath (spec : Capture.SourceSpec) : String :=
  match spec with
  | .file path _ => path
  | .synthetic .. => ""

/-- Opens the source. -/
def openSource (files : Files) (spec : Capture.SourceSpec) :
    Except InputFailure Capture.Source :=
  match Capture.Source.open? (files.get (capturePath spec)) spec with
  | some source => .ok source
  | none => .error (.fileNotFound (capturePath spec))

/-- The palette that the arguments and the environment ask for. -/
def palette (args : CommandLine) (env : Environment) : Screen.Palette :=
  .ofColors (Screen.colorsEnabled args.noColor (env.get? "NO_COLOR").isSome)

/-- Opens the source and runs the session, with the log open. -/
def session (world : World) (args : CommandLine) (settings : Settings) :
    SessionStep (Except ProgramFailure Unit) := do
  SessionStep.ofLogged (Logged.note ⟨.info, .program, "Configuration loaded and resolved",
    [("config", settings.describe)]⟩)
  match ← SessionStep.look fun c => openSource c.files args.source, settings.table with
  | .error e, _ => return .error (.input e)
  | _, .error e => return .error (.settings e)
  | .ok source, .ok table =>
    let options : AppOptions := ⟨table, settings.tickMillis, palette args world.environment⟩
    return (← SessionStep.attempt (Session.run source options world.script)).mapError .session

/-- A run that ends before anything is written to the log. -/
def early (world : World) (code : Nat) (stdout stderr : String) : Outcome :=
  ⟨code, stdout, stderr, #[], world.files⟩

/-- The line about a failure. -/
def errorLine (failure : ProgramFailure) : String := "Error: " ++ failure.detail ++ "\n"

/-- The console at the start of a session. -/
def console (world : World) (args : CommandLine) (files : Files) (log : Option Log.Sink) :
    Console where
  display := .blank world.width world.height
  failures := world.failures
  files := files
  scriptPath := world.scriptPath
  capturePath := capturePath args.source
  log := log
  taken := 0
  trace := #[]

/-- Runs the program with arguments that have been read. -/
def runWith (world : World) (args : CommandLine) : Outcome :=
  match Settings.resolve world.files world.environment args.config args.rowHeight with
  | .error e => early world 1 "" (errorLine (.settings e))
  | .ok settings =>
    let filter := Log.Filter.ofVariable (world.environment.get? "RUST_LOG")
    match openLog world.files settings.logPath filter world.time with
    | .error e => early world 1 "" (errorLine (.log e))
    | .ok (files, log) =>
      let (console, outcome) := (session world args settings (console world args files log)).value
      let stderr := match outcome with
        | .ok (.ok ()) => ""
        | .ok (.error e) => errorLine e
        | .error e => errorLine (.session e)
      ⟨if stderr = "" then 0 else 1, "", stderr, console.trace, console.files⟩

/-- Runs the program. -/
def run (world : World) (arguments : List String) : Outcome :=
  match CommandLine.read arguments with
  | .error .helpAsked => early world 0 CommandLine.helpText ""
  | .error .versionAsked => early world 0 CommandLine.versionText ""
  | .error _ => early world 2 "" ""
  | .ok args => runWith world args

/-- The files that a run reads. -/
def inputPaths (env : Environment) (arguments : List String) : List String :=
  match CommandLine.read arguments with
  | .error _ => []
  | .ok args => [Settings.chosenPath env args.config, capturePath args.source].filter (· ≠ "")

end Program

end FlowWatch
