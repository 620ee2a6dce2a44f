import FlowWatch.Capture.Source
import FlowWatch.Text.Numeral

/-!
# The command line

Reads the arguments of a run from left to right.  An option that takes a value keeps it pending
until the next option, so that of two faults the one that is noticed first is reported: an unknown
argument is noticed at once, a faulty value when the option after it is taken up.
-/

namespace FlowWatch

/-- Why arguments make no run. -/
inductive UsageError where
  | helpAsked
  | versionAsked
  | conflict
  | faultyNumber
  | unknownArgument
  /-- A value is missing, or a path is empty. -/
  | emptyValue
  | unwantedValue
deriving DecidableEq, Repr

/-- The name of the reason. -/
def UsageError.name : UsageError → String
  | helpAsked => "DisplayHelp"
  | versionAsked => "DisplayVersion"
  | conflict => "ArgumentConflict"
  | faultyNumber => "ValueValidation"
  | unknownArgument => "UnknownArgument"
  | emptyValue => "InvalidValue"
  | unwantedValue => "TooManyValues"

/-- What the arguments say. -/
structure CommandLine where
  file : Option String
  follow : Bool
  synthetic : Option Nat
  rate : Option Nat
  rowHeight : Option Nat
  config : Option String
  noColor : Bool
deriving DecidableEq, Repr

namespace CommandLine

/-- No argument at all. -/
def empty : CommandLine := ⟨none, false, none, none, none, none, false⟩

/-- The number of synthetic flows in the first batch. -/
def syntheticCount (c : CommandLine) : Nat := c.synthetic.getD 200

/-- The milliseconds between two synthetic flows; zero ends the stream. -/
def rateMillis (c : CommandLine) : Nat := c.rate.getD 100

/-- Where flows come from. -/
def source (c : CommandLine) : Capture.SourceSpec :=
  match c.file with
  | some path => .file path c.follow
  | none => .synthetic c.syntheticCount (if c.rateMillis = 0 then none else some c.rateMillis)

/-- The arguments that have a value. -/
inductive Slot where
  | file
  | synthetic
  | rate
  | rowHeight
  | config
deriving DecidableEq, Repr

/-- The argument has been given. -/
def has (c : CommandLine) : Slot → Bool
  | .file => c.file.isSome
  | .synthetic => c.synthetic.isSome
  | .rate => c.rate.isSome
  | .rowHeight => c.rowHeight.isSome
  | .config => c.config.isSome

/-- A path, which is not empty. -/
def readPath (value : String) : Except UsageError String :=
  if value = "" then .error .emptyValue else .ok value

/-- A number from `lo` to `hi`. -/
def readNumber (lo hi : Nat) (value : String) : Except UsageError Nat :=
  match Text.readNumeral hi value.toList with
  | .ok n => if lo ≤ n then .ok n else .error .faultyNumber
  | .error _ => .error .faultyNumber

/-- Takes the value of an argument. -/
def assign (c : CommandLine) (slot : Slot) (value : String) : Except UsageError CommandLine := do
  if c.has slot then throw .conflict
  match slot with
  | .file => return { c with file := some (← readPath value) }
  | .synthetic => return { c with synthetic := some (← readNumber 0 Text.max64 value) }
  | .rate => return { c with rate := some (← readNumber 0 Text.max64 value) }
  | .rowHeight => return { c with rowHeight := some (← readNumber 1 Text.max32 value) }
  | .config => return { c with config := some (← readPath value) }

/-- An option by its name. -/
inductive OptionName where
  | valued (slot : Slot)
  | follow
  | noColor
  | help
  | version
deriving DecidableEq, Repr

/-- The option with a long name. -/
def longOption? : String → Option OptionName
  | "follow" => some .follow
  | "synthetic" => some (.valued .synthetic)
  | "rate" => some (.valued .rate)
  | "row-height" => some (.valued .rowHeight)
  | "config" => some (.valued .config)
  | "no-color" => some .noColor
  | "help" => some .help
  | "version" => some .version
  | _ => none

/-- The option with a letter. -/
def shortOption? : Char → Option OptionName
  | 'f' => some .follow
  | 'h' => some .help
  | 'V' => some .version
  | _ => none

/-- How far the arguments have been read. -/
structure Reading where
  taken : CommandLine
  /-- The argument whose value has not been taken yet, and the value once it is there. -/
  pending : Option (Slot × Option String)
  /-- Options are over. -/
  trailing : Bool
  /-- The file has been named. -/
  named : Bool

namespace Reading

/-- Nothing read. -/
def start : Reading := ⟨.empty, none, false, false⟩

/-- Takes the value that is pending. -/
def settle (r : Reading) : Except UsageError Reading :=
  match r.pending with
  | none => .ok r
  | some (_, none) => .error .emptyValue
  | some (slot, some value) => do
    return { r with taken := ← r.taken.assign slot value, pending := none }

/-- Takes up an option without a value. -/
def flag (r : Reading) (option : OptionName) : Except UsageError Reading := do
  let r ← r.settle
  match option with
  | .follow =>
    if r.taken.follow then throw .conflict
    return { r with taken := { r.taken with follow := true } }
  | .noColor =>
    if r.taken.noColor then throw .conflict
    return { r with taken := { r.taken with noColor := true } }
  | .help => throw .helpAsked
  | .version => throw .versionAsked
  | .valued slot => return { r with pending := some (slot, none) }

/-- Reads options given by letters. -/
def letters (r : Reading) : List Char → Except UsageError Reading
  | [] => .ok r
  | c :: cs =>
    match shortOption? c with
    | none => .error .unknownArgument
    | some option => do letters (← r.flag option) cs

/-- Reads an option given by its long name, with or without a value. -/
def long (r : Reading) (name : String) (value : Option String) : Except UsageError Reading :=
  match longOption? name, value with
  | none, _ => .error .unknownArgument
  | some (.valued slot), some value => do
    let r ← r.settle
    return { r with taken := ← r.taken.assign slot value }
  | some _, some _ => .error .unwantedValue
  | some option, none => r.flag option

/-- Takes an argument that is no option. -/
def positional (r : Reading) (argument : String) : Except UsageError Reading := do
  if r.named then throw .unknownArgument
  let r ← r.settle
  return { r with pending := some (.file, some argument), named := true }

/-- Takes an argument that does not look like an option. -/
def plain (r : Reading) (argument : String) : Except UsageError Reading :=
  match r.pending, r.trailing with
  | some (slot, none), false => .ok { r with pending := some (slot, some argument) }
  | _, _ => r.positional argument

/-- The name and the value of a long option, with an equals sign between them. -/
def splitValue (cs : List Char) : String × Option String :=
  let name := String.ofList (cs.takeWhile (· ≠ '='))
  match cs.dropWhile (· ≠ '=') with
  | [] => (name, none)
  | _ :: value => (name, some (String.ofList value))

/-- Reads one argument. -/
def step (r : Reading) (argument : String) : Except UsageError Reading :=
  if r.trailing then r.positional argument
  else match argument.toList with
    | ['-', '-'] => .ok { r with trailing := true }
    | '-' :: '-' :: cs => r.long (splitValue cs).1 (splitValue cs).2
    | '-' :: c :: cs => r.letters (c :: cs)
    | _ => r.plain argument

end Reading

/-- Reads the arguments of a run. -/
def read (arguments : List String) : Except UsageError CommandLine := do
  let r ← arguments.foldlM Reading.step .start
  let c := (← r.settle).taken
  if c.file.isSome && (c.synthetic.isSome || c.rate.isSome) then throw .conflict
  return c

/-- What is printed when the version is asked for. -/
def versionText : String := "flowview 0.1.0\n"

/-- What is printed when help is asked for. -/
def helpText : String := "\n".intercalate
  ["Live-tailing TUI table for JSONL network flow captures",
    "",
    "Usage: flowview [OPTIONS] [FILE]",
    "",
    "Arguments:",
    "  [FILE]  Path to JSONL capture file (generates synthetic traffic if not provided)",
    "",
    "Options:",
    "  -f, --follow                   Follow the file for new content (like tail -f)",
    "      --synthetic <SYNTHETIC>    Number of synthetic flows generated up front [default: 200]",
    "      --rate <RATE>              Milliseconds between synthetic flows (0 stops after the " ++
      "initial batch) [default: 100]",
    "      --row-height <ROW_HEIGHT>  Row height in terminal lines (must be positive)",
    "      --config <CONFIG>          Path to configuration file",
    "      --no-color                 Disable colors",
    "  -h, --help                     Print help",
    "  -V, --version                  Print version",
    ""]

end CommandLine

end FlowWatch
