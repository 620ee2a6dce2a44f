import FlowWatch.Files
import FlowWatch.Log.Filter
import FlowWatch.Time.Printer

/-!
# Log files

How events stand in a log file: one line each, with the time in front of the level, the speaker, the
message and the fields.  A message may quote what a stranger wrote, so the characters in it that a
terminal would obey are spelt out.  A `Log.Sink` is a log file that is open for writing.
-/

namespace FlowWatch.Log

/-- Characters that can begin a command to a terminal, beyond those that only move the cursor. -/
def isTerminalCommand (c : Char) : Bool :=
  c == '\x1b' || c == '\x07' || c == '\x08' || c == '\x0c' || c == '\x7f'

/-- A number below 256 as two digits in base sixteen. -/
def twoHexDigits (n : Nat) : List Char := [Nat.digitChar (n / 16), Nat.digitChar (n % 16)]

/-- A character of a message as it stands in a log. -/
def messageChar (c : Char) : List Char :=
  if isTerminalCommand c then '\\' :: 'x' :: twoHexDigits c.toNat
  else if 0x80 ≤ c.toNat && c.toNat ≤ 0x9F then
    ['\\', 'u', '\x7b'] ++ twoHexDigits c.toNat ++ ['\x7d']
  else [c]

/-- A message as it stands in a log. -/
def messageText (message : String) : String := String.ofList (message.toList.flatMap messageChar)

/-- The line of an event, without the time in front and the end of the line. -/
def Event.line (e : Event) : String :=
  " ".intercalate (e.level.name :: (e.speaker.target ++ ":") :: messageText e.message ::
    e.fields.map fun (name, value) => name ++ "=" ++ value)

/-- The line of an event as it stands after the time, with blanks that make all levels equally
long. -/
def Event.text (e : Event) : String := "".pushn ' ' (5 - e.level.name.length) ++ e.line

/-- A time to the microsecond. -/
def timeText (s : Stamp) : String :=
  String.ofList (Stamp.renderDate s.date ++ 'T' :: s.renderClock ++
    '.' :: Stamp.padded (s.nanos / 1000) 6 ++ ['Z'])

/-- A log file that is open for writing: where it is, what goes into it, and the time that its lines
bear. -/
structure Sink where
  location : List String
  filter : Filter
  time : Stamp

/-- The lines of the events that are let through, each with its end. -/
def Sink.lines (sink : Sink) (events : List Event) : List String :=
  (events.filter sink.filter.admits).map fun e => timeText sink.time ++ " " ++ e.text ++ "\n"

/-- Writes the events that are let through. -/
def Sink.write (sink : Sink) (files : Files) (events : List Event) : Files :=
  let lines := sink.lines events
  if lines.isEmpty then files else files.appendAt sink.location (String.join lines).toUTF8

/-- The file is still where it was opened. -/
def Sink.isThere (sink : Sink) (files : Files) : Bool :=
  match files.stateAt sink.location with
  | .file _ => true
  | _ => false

/-- A line without the word in front, which is its time, and without the blanks after it. -/
def withoutTime (line : List Char) : List Char :=
  match line.dropWhile (· ≠ ' ') with
  | [] => line
  | rest => Text.trimStart rest

/-- A line without a carriage return at its end. -/
def withoutReturn (line : List Char) : List Char :=
  if line.getLast? == some '\r' then line.dropLast else line

/-- The lines of a log, without times. -/
def linesOf (log : List Char) : List String :=
  let lines := log.splitOn '\n'
  let lines := if lines.getLast? == some [] then lines.dropLast else lines
  lines.map fun line => String.ofList (withoutTime (withoutReturn line))

/-- The lines of the log at a path, without times; none if there is no file. -/
def linesAt (files : Files) (path : String) : Option (List String) :=
  match files.get path with
  | .file contents => some (linesOf ((String.fromUTF8? contents).getD "").toList)
  | _ => none

end FlowWatch.Log
