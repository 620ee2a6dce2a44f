import FlowWatch.Flow.Wire
import FlowWatch.Json.Printer
import FlowWatch.Json.Reader
import FlowWatch.Text.Blank

/-!
# Capture lines

A capture holds one message on each line.  Blank lines say nothing; every other line is a message or
is refused under its number.
-/

namespace FlowWatch.Capture

/-- Why a line is no message. -/
inductive LineCause where
  /-- The line is no JSON text. -/
  | syntaxError
  /-- The line is JSON, but no message. -/
  | content (cause : Wire.Error)
deriving Repr

/-- A refused line and its number, counted from one. -/
structure LineError where
  line : Nat
  cause : LineCause
deriving Repr

/-- The words for a cause. -/
def LineCause.message : LineCause → String
  | syntaxError => "syntax"
  | content cause => cause.message

/-- The text of a refusal. -/
def LineError.message (e : LineError) : String :=
  "Invalid flow message at line " ++ toString e.line ++ ": " ++ e.cause.message

/-- Reads a line; a blank one says nothing. -/
def parseLine (raw : List Char) (line : Nat) : Except LineError (Option Message) :=
  let trimmed := Text.trim raw
  if trimmed.isEmpty then .ok none
  else match Json.read trimmed with
    | none => .error ⟨line, .syntaxError⟩
    | some v =>
      match Wire.message v with
      | .ok m => .ok (some m)
      | .error cause => .error ⟨line, .content cause⟩

/-- Reads lines numbered from `first`, and collects the messages and the refusals in order. -/
def parseLines : List String → Nat → List Message × List LineError
  | [], _ => ([], [])
  | raw :: lines, first =>
    let (messages, errors) := parseLines lines (first + 1)
    match parseLine raw.toList first with
    | .ok (some m) => (m :: messages, errors)
    | .ok none => (messages, errors)
    | .error e => (messages, e :: errors)

/-- A message on one line. -/
def renderMessage (m : Message) : List Char := (Wire.ofMessage m).render

/-- A bare flow on one line. -/
def renderFlow (f : Flow) : List Char := (Wire.ofFlow f).render

end FlowWatch.Capture
