import FlowWatch.Capture.Line
import FlowWatch.Files
import FlowWatch.Log.Event

/-!
# Tailing a capture file

A capture file grows line by line.  A `Tail` remembers how many bytes of it have been consumed, so
that each poll delivers the complete lines that have arrived since the last one; a line without its
newline is left for a later poll.  A file shorter than what has been consumed is read from its
start.
-/

namespace FlowWatch.Capture

/-- A capture file under observation. -/
structure Tail where
  path : String
  follow : Bool
  position : Nat
  linesRead : Nat
  exhausted : Bool
deriving DecidableEq, Repr

namespace Tail

/-- Starts to observe the file at a path, if there is anything there. -/
def start? (path : String) (follow : Bool) : FileState → Option Tail
  | .missing => none
  | _ => some ⟨path, follow, 0, 0, false⟩

/-- More data may arrive. -/
def isLive (t : Tail) : Bool := t.follow || !t.exhausted

/-- The position after the first newline at or after `i`. -/
def lineEnd (bytes : ByteArray) (i : Nat) : Option Nat :=
  if h : i < bytes.size then
    if bytes[i] = 10 then some (i + 1) else lineEnd bytes (i + 1)
  else none
termination_by bytes.size - i

theorem lineEnd_gt {bytes : ByteArray} {i stop : Nat} (h : lineEnd bytes i = some stop) :
    i < stop ∧ stop ≤ bytes.size := by
  fun_induction lineEnd bytes i with
  | case1 i hi hb =>
    cases h
    omega
  | case2 i hi hb ih =>
    have := ih h
    omega
  | case3 i hi => cases h

/-- A line without the newline and carriage returns at its end. -/
def stripLineEnd (line : String) : String :=
  String.ofList ((line.toList.reverse.dropWhile fun c => c == '\n' || c == '\r').reverse)

/-- Reads the complete lines from a position; the answer is them and the position after the last.
A line that is no UTF-8 ends the reading at its start with a failure, and so does a last line
without newline that is none. -/
def readLinesFrom (bytes : ByteArray) (position : Nat) : List String × Nat × Option IoError :=
  match h : lineEnd bytes position with
  | some stop =>
    match String.fromUTF8? (bytes.extract position stop) with
    | some line =>
      have := lineEnd_gt h
      let (lines, last, failure) := readLinesFrom bytes stop
      (stripLineEnd line :: lines, last, failure)
    | none => ([], position, some .invalidUtf8)
  | none =>
    match String.fromUTF8? (bytes.extract position bytes.size) with
    | some _ => ([], position, none)
    | none => ([], position, some .invalidUtf8)
termination_by bytes.size - position

/-- What is shorter than what has been consumed of it is read from its start. -/
def rewind (t : Tail) (length : Nat) : Logged Tail := do
  if length < t.position then
    Logged.note ⟨.debug, .capture, "Capture file truncated, rereading", [("path", t.path)]⟩
    return { t with position := 0, linesRead := 0 }
  else return t

theorem rewind_of_le {t : Tail} {length : Nat} (h : t.position ≤ length) :
    t.rewind length = pure t := if_neg (Nat.not_lt.mpr h)

theorem value_rewind (t : Tail) (length : Nat) :
    (t.rewind length).value =
      if length < t.position then { t with position := 0, linesRead := 0 } else t := by
  unfold rewind
  split <;> rfl

/-- Reads the lines that are complete by now.  A failure gives up the lines read before it, but
their bytes count as consumed.  A directory can be opened, but not read. -/
def readNewLines (t : Tail) : FileState → Logged (Tail × Except IoError (List String))
  | .missing => return (t, .error .notFound)
  | .directory length => return (← t.rewind length, .error .isDirectory)
  | .file bytes => do
    let t ← t.rewind bytes.size
    let (lines, position, failure) := readLinesFrom bytes t.position
    let t := { t with position }
    match failure with
    | some failure => return (t, .error failure)
    | none => return (t, .ok lines)

/-- What is noted of the messages and refusals of a poll. -/
def pollEvents (t : Tail) (messages : List Message) (errors : List LineError) : List Log.Event :=
  errors.map (fun e =>
    ⟨.warn, .capture, "Skipping malformed line: " ++ e.message, [("path", t.path)]⟩) ++
  (if messages.isEmpty then []
   else [⟨.debug, .capture, "Read flow messages", [("count", toString messages.length)]⟩])

/-- Delivers the messages of the lines that are complete by now.  A file that is not followed is
read once. -/
def poll (t : Tail) (file : FileState) : Logged (Tail × Except IoError (List Message)) := do
  if t.exhausted && !t.follow then return (t, .ok [])
  else
    let (t, outcome) ← t.readNewLines file
    match outcome with
    | .error failure => return (t, .error failure)
    | .ok lines =>
      let (messages, errors) := parseLines lines (t.linesRead + 1)
      let t := { t with exhausted := true, linesRead := t.linesRead + lines.length }
      Logged.noteAll (t.pollEvents messages errors)
      return (t, .ok messages)

end Tail

end FlowWatch.Capture
