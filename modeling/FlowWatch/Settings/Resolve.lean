import FlowWatch.Settings.Basic
import FlowWatch.Text.Blank

/-!
# Where settings come from

Defaults give way to the settings file, the file to the environment, and the environment to the
command line.  A file that does not exist says nothing.
-/

namespace FlowWatch.Settings

/-- A directory of the user: the one that a variable names, if it starts at the root, or one below
the home directory. -/
def userDirectory (env : Environment) (variableName fallback : String) : String :=
  match env.get? variableName with
  | some path => if Path.isAbsolute path then path else below
  | none => below
where
  /-- The directory below the home directory. -/
  below : String := Path.join ((env.get? "HOME").getD "") fallback

/-- The log file where nothing else is said. -/
def defaultLogPath (env : Environment) : String :=
  Path.join (userDirectory env "XDG_STATE_HOME" ".local/state") "flowview/flowview.log"

/-- The settings file where nothing else is said. -/
def defaultFilePath (env : Environment) : String :=
  Path.join (userDirectory env "XDG_CONFIG_HOME" ".config") "flowview/config.toml"

/-- The settings where nothing is said. -/
def default (env : Environment) : Settings := .ofLogPath (defaultLogPath env)

/-- Reads a settings file. -/
def loadFile (files : Files) (path : String) : Except SettingsError (Option FileSettings) :=
  match files.get path with
  | .missing => .ok none
  | .directory _ => .error (.unreadable path IoError.isDirectory.message)
  | .file bytes =>
    match String.fromUTF8? bytes with
    | none => .error (.unreadable path IoError.invalidUtf8.message)
    | some text =>
      match FileSettings.ofDocument? text.toList with
      | none => .error (.malformed path "no settings document")
      | some s => .ok (some s)

/-- The settings file that is read: the one asked for, the one that the environment names, or the
default one. -/
def chosenPath (env : Environment) (asked : Option String) : String :=
  (asked.or (env.get? "FLOWVIEW_CONFIG")).getD (defaultFilePath env)

/-- Reads the number in a variable, if it is set. -/
def readVariable (env : Environment) (name : String) (limit : Nat) :
    Except SettingsError (Option Nat) :=
  match env.get? name with
  | none => .ok none
  | some raw =>
    match Text.readNumeral limit (Text.trim raw.toList) with
    | .ok n => .ok (some n)
    | .error e => .error (.invalidValue name (Text.quote raw ++ ": " ++ e.message))

/-- The settings with what the environment says of them. -/
def withEnvironment (s : Settings) (env : Environment) : Except SettingsError Settings := do
  let rowHeight ← readVariable env "FLOWVIEW_ROW_HEIGHT" Text.max32
  let overscan ← readVariable env "FLOWVIEW_OVERSCAN" Text.max64
  return { s with
    rowHeight := rowHeight.getD s.rowHeight
    overscan := overscan.getD s.overscan }

/-- The settings with what the command line says of them. -/
def withRowHeight (s : Settings) (rowHeight : Option Nat) : Settings :=
  { s with rowHeight := rowHeight.getD s.rowHeight }

/-- The settings with what a file says of them, if there is one. -/
def withFile (s : Settings) (file : Option FileSettings) : Settings :=
  match file with
  | some file => s.merge file
  | none => s

/-- The settings of a run, with every source taken into account. -/
def resolve (files : Files) (env : Environment) (asked : Option String)
    (rowHeight : Option Nat) : Except SettingsError Settings := do
  let file ← loadFile files (chosenPath env asked)
  let s ← ((default env).withFile file).withEnvironment env
  let s := s.withRowHeight rowHeight
  s.validate
  return s

end FlowWatch.Settings
