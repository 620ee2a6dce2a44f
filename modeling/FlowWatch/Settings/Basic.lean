import FlowWatch.Files
import FlowWatch.Settings.Toml
import FlowWatch.Table.Controller
import FlowWatch.Text.Numeral

/-!
# Settings

The settings of a run: their defaults, what a settings file may say of them, and which values can be
used.
-/

namespace FlowWatch

/-- Why settings cannot be had. -/
inductive SettingsError where
  | invalidPath (path : String)
  | unreadable (path reason : String)
  | malformed (path reason : String)
  | invalidValue (key reason : String)
deriving DecidableEq, Repr

namespace SettingsError

/-- The name of the kind of error. -/
def name : SettingsError → String
  | invalidPath _ => "InvalidPath"
  | unreadable .. => "ReadError"
  | malformed .. => "ParseError"
  | invalidValue .. => "InvalidValue"

/-- The text of the error. -/
def message : SettingsError → String
  | invalidPath path => "Invalid config path: " ++ path
  | unreadable path reason => s!"Failed to read config file at {path}: {reason}"
  | malformed path reason => s!"Invalid TOML in {path}: {reason}"
  | invalidValue key reason => s!"Invalid value for {key}: {reason}"

/-- The error as the program reports it; only a value is reported with all that is known. -/
def detail (e : SettingsError) : String :=
  match e with
  | invalidValue key reason =>
    s!"InvalidValue \x7b key: {Text.quote key}, reason: {Text.quote reason} \x7d"
  | e => e.name

end SettingsError

/-- What a settings file says; it may leave everything open. -/
structure FileSettings where
  rowHeight : Option Nat
  headerHeight : Option Nat
  overscan : Option Nat
  bottomEpsilon : Option Nat
  tickMillis : Option Nat
  logPath : Option String
deriving DecidableEq, Repr

namespace FileSettings

/-- A file that says nothing. -/
def empty : FileSettings := ⟨none, none, none, none, none, none⟩

/-- The natural number in a value, if it is no higher than a limit. -/
def natural? (limit : Nat) : Toml.Scalar → Option Nat
  | .integer n => if 0 ≤ n && n ≤ limit then some n.toNat else none
  | .text _ => none

/-- The text in a value. -/
def text? : Toml.Scalar → Option String
  | .integer _ => none
  | .text cs => some (String.ofList cs)

/-- Fills an open place; a key that has been given a value before is refused. -/
def fill {α : Type} (place value : Option α) : Option (Option α) :=
  if place.isSome then none else value.map some

/-- Adds an entry; unknown keys, second values and values of a wrong kind are refused. -/
def add? (s : FileSettings) (entry : Toml.Entry) : Option FileSettings := do
  let value := entry.value
  match String.ofList entry.key with
  | "row_height" => return { s with rowHeight := ← fill s.rowHeight (natural? Text.max32 value) }
  | "header_height" =>
    return { s with headerHeight := ← fill s.headerHeight (natural? Text.max32 value) }
  | "overscan" => return { s with overscan := ← fill s.overscan (natural? Text.max64 value) }
  | "bottom_epsilon" =>
    return { s with bottomEpsilon := ← fill s.bottomEpsilon (natural? Text.max32 value) }
  | "tick_rate_ms" =>
    return { s with tickMillis := ← fill s.tickMillis (natural? Text.max64 value) }
  | "log_file_path" => return { s with logPath := ← fill s.logPath (text? value) }
  | _ => none

/-- What a document says. -/
def ofDocument? (cs : List Char) : Option FileSettings := do
  (← Toml.read cs).foldlM add? empty

end FileSettings

/-- The settings of a run. -/
structure Settings where
  rowHeight : Nat
  headerHeight : Nat
  overscan : Nat
  bottomEpsilon : Nat
  tickMillis : Nat
  logPath : String
deriving DecidableEq, Repr

namespace Settings

/-- The settings where nothing is said; the log file depends on the environment. -/
def ofLogPath (logPath : String) : Settings := ⟨1, 1, 1, 0, 250, logPath⟩

/-- The settings with what a file says of them. -/
def merge (s : Settings) (file : FileSettings) : Settings where
  rowHeight := file.rowHeight.getD s.rowHeight
  headerHeight := file.headerHeight.getD s.headerHeight
  overscan := file.overscan.getD s.overscan
  bottomEpsilon := file.bottomEpsilon.getD s.bottomEpsilon
  tickMillis := file.tickMillis.getD s.tickMillis
  logPath := file.logPath.getD s.logPath

/-- The highest overscan; a window never needs more rows than a screen holds. -/
def maxOverscan : Nat := 1024

/-- The settings of the table, unless a row has no height. -/
def table (s : Settings) : Except SettingsError TableSettings :=
  match RowHeight.ofLines s.rowHeight with
  | .ok height => .ok ⟨height, s.headerHeight, s.overscan, s.bottomEpsilon⟩
  | .error e => .error (.invalidValue "row_height" e.message)

/-- Refuses values that cannot be used. -/
def validate (s : Settings) : Except SettingsError Unit := do
  let _ ← s.table
  if s.tickMillis = 0 then throw (.invalidValue "tick_rate_ms" "must be >= 1")
  if maxOverscan < s.overscan then
    throw (.invalidValue "overscan" s!"must be <= {maxOverscan}")

/-- The settings as the log shows them. -/
def describe (s : Settings) : String :=
  s!"ResolvedConfig \x7b row_height: {s.rowHeight}, header_height: {s.headerHeight}, " ++
    s!"overscan: {s.overscan}, bottom_epsilon: {s.bottomEpsilon}, " ++
    s!"tick_rate_ms: {s.tickMillis}, log_file_path: {Text.quote s.logPath} \x7d"

end Settings

end FlowWatch
