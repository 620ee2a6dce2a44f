import FlowWatch.Files

/-!
# Failures

What can end a run, and the words for it: `message` is what a user reads, `detail` is all that is
known.
-/

namespace FlowWatch

/-- Why flows cannot be read. -/
inductive InputFailure where
  | fileNotFound (path : String)
  | io (error : IoError)
deriving DecidableEq, Repr

namespace InputFailure

/-- The text of the failure. -/
def message : InputFailure → String
  | fileNotFound path => "File not found: " ++ path
  | io error => "IO error: " ++ error.message

/-- The failure in full. -/
def detail : InputFailure → String
  | fileNotFound path => s!"FileNotFound \x7b path: {Text.quote path} \x7d"
  | io error => s!"Io({error.detail})"

end InputFailure

/-- A line of a capture that is no message. -/
structure LineFailure where
  line : Nat
  reason : String
deriving DecidableEq, Repr

namespace LineFailure

/-- The text of the failure. -/
def message (f : LineFailure) : String := s!"Invalid flow message at line {f.line}: {f.reason}"

/-- The failure in full. -/
def detail (f : LineFailure) : String :=
  s!"InvalidMessage \x7b line: {f.line}, message: {Text.quote f.reason} \x7d"

end LineFailure

/-- Why the application cannot go on. -/
inductive AppFailure where
  | input (failure : InputFailure)
  | line (failure : LineFailure)
  | terminal (error : IoError)
deriving DecidableEq, Repr

namespace AppFailure

/-- The text of the failure. -/
def message : AppFailure → String
  | input failure => "Failed to read input: " ++ failure.message
  | line failure => "Failed to parse flow message: " ++ failure.message
  | terminal error => "Terminal error: " ++ error.message

/-- The failure in full. -/
def detail : AppFailure → String
  | input failure => s!"InputRead({failure.detail})"
  | line failure => s!"Parse({failure.detail})"
  | terminal error => s!"Terminal({error.detail})"

end AppFailure

/-- Why a session ended before the user ended it. -/
inductive SessionFailure where
  | terminal (error : IoError)
  | input (failure : InputFailure)
  | app (failure : AppFailure)
deriving DecidableEq, Repr

namespace SessionFailure

/-- The name of the kind of failure. -/
def name : SessionFailure → String
  | terminal _ => "Io"
  | input _ => "Input"
  | app _ => "App"

/-- The text of the failure. -/
def message : SessionFailure → String
  | terminal error => "Terminal IO error: " ++ error.message
  | input failure => "Input error: " ++ failure.message
  | app failure => "Application error: " ++ failure.message

/-- The failure in full. -/
def detail (f : SessionFailure) : String :=
  let inner := match f with
    | terminal error => error.detail
    | input failure => failure.detail
    | app failure => failure.detail
  s!"{f.name}({inner})"

end SessionFailure

/-- Why no log can be written. -/
inductive LogFailure where
  | directoryCreation (path : String) (error : IoError)
  | invalidPath (path : String)
  | noParentDirectory (path : String)
  | alreadyInitialized
deriving DecidableEq, Repr

namespace LogFailure

/-- The text of the failure. -/
def message : LogFailure → String
  | directoryCreation path error =>
    s!"Failed to create log directory at {Text.quote path}: {error.message}"
  | invalidPath path => "Invalid log file path: " ++ Text.quote path
  | noParentDirectory path => "Log path has no parent directory: " ++ Text.quote path
  | alreadyInitialized => "Tracing subscriber already initialized"

/-- The failure in full. -/
def detail : LogFailure → String
  | directoryCreation path error =>
    s!"DirectoryCreation \x7b path: {Text.quote path}, source: {error.detail} \x7d"
  | invalidPath path => s!"InvalidPath({Text.quote path})"
  | noParentDirectory path => s!"NoParentDirectory({Text.quote path})"
  | alreadyInitialized => "SubscriberAlreadySet"

end LogFailure

end FlowWatch
