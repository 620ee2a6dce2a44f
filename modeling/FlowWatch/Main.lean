import FlowWatch.Program
import Std.Time.DateTime.Timestamp

/-!
# The command line

Runs the program on the files and the environment that it finds.  What happens at the terminal is
read from standard input: an empty line is a tick of the clock at the time when it is read, and any
other one is a key, after the names of those held down with it.  Every frame is printed as it is
drawn.
-/

namespace FlowWatch.Main

/-- The variables that a run looks at. -/
def variableNames : List String :=
  ["HOME", "XDG_CONFIG_HOME", "XDG_STATE_HOME", "FLOWVIEW_CONFIG", "FLOWVIEW_ROW_HEIGHT",
    "FLOWVIEW_OVERSCAN", "NO_COLOR", "RUST_LOG"]

/-- The environment of the process. -/
def readEnvironment : IO Environment := do
  let values ← variableNames.filterMapM fun name => do
    return (← IO.getEnv name).map fun value => (name, value)
  return ⟨values⟩

/-- A number in a variable, or another one. -/
def readSize (name : String) (otherwise : Nat) : IO Nat := do
  return ((← IO.getEnv name).bind String.toNat?).getD otherwise

/-- The present time. -/
def readClock : IO Stamp := do
  let now ← Std.Time.Timestamp.now
  return .afterMidnight ⟨1970, 1, 1⟩ now.toMillisecondsSinceUnixEpoch.val.toNat

/-- Adds what stands at a path, if it can be read. -/
def readFile (files : Files) (path : String) : IO Files := do
  try
    return files.set path (.file (← IO.FS.readBinFile path))
  catch _ => return files

/-- What a line of the script means that is read at a time of the clock. -/
def itemOfLine (line : String) (now : Int) : ScriptItem :=
  match ((line.splitOn " ").filter (· ≠ "")).reverse with
  | [] => .tick now
  | code :: held => .input (.key ⟨.ofText code, .ofNames held⟩)

/-- The lines of standard input, which are read from a time of the clock on. -/
partial def readScript (stream : IO.FS.Stream) (start : Nat) (items : Array ScriptItem) :
    IO (List ScriptItem) := do
  let line ← stream.getLine
  if line.isEmpty then return items.toList
  else
    let now ← IO.monoNanosNow
    let item := itemOfLine line.trimAscii.toString ((now : Int) - start)
    readScript stream start (items.push item)

/-- Prints a frame. -/
def printFrame : TraceEntry → IO Unit
  | .frame display => IO.println ("\n".intercalate display.lines)
  | _ => return ()

/-- Makes on disk what a run has made or written: its bytes go to the end of a file. -/
def keepEntry (before : Files) (entry : List String × FileState) : IO Unit := do
  let path := "/" ++ "/".intercalate entry.1
  match entry.2, before.stateAt entry.1 with
  | .directory _, _ => IO.FS.createDirAll path
  | .file contents, old =>
    let known := match old with
      | .file bytes => bytes.size
      | _ => 0
    if known < contents.size then
      let handle ← IO.FS.Handle.mk path .append
      handle.write (contents.extract known contents.size)
  | .missing, _ => return ()

/-- Runs the program with some arguments. -/
def runWith (arguments : List String) : IO UInt32 := do
  let environment ← readEnvironment
  let here := toString (← IO.FS.realPath ".")
  let start : Files := { Files.empty with current := (here.splitOn "/").filter (· ≠ "") }
  let files ← (Program.inputPaths environment arguments).foldlM readFile start
  let width ← readSize "COLUMNS" 80
  let height ← readSize "LINES" 24
  let script ← readScript (← IO.getStdin) (← IO.monoNanosNow) #[]
  let world : World := ⟨files, environment, ← readClock, width, height, [], "", script⟩
  let outcome := Program.run world arguments
  outcome.trace.forM printFrame
  IO.print outcome.stdout
  IO.eprint outcome.stderr
  outcome.files.entries.reverse.forM (keepEntry files)
  return outcome.code.toUInt32

end FlowWatch.Main

/-- Runs the program. -/
def main (arguments : List String) : IO UInt32 := FlowWatch.Main.runWith arguments
