import FlowWatch.Capture.Synthetic
import FlowWatch.Capture.Tail

/-!
# Flow sources

Where flows come from: a capture file or synthetic traffic.
-/

namespace FlowWatch.Capture

/-- What the user asks for. -/
inductive SourceSpec where
  | file (path : String) (follow : Bool)
  /-- A first batch, and then one flow in every period of so many milliseconds. -/
  | synthetic (initialCount : Nat) (rateMs : Option Nat)
deriving DecidableEq, Repr

/-- A source that has been opened. -/
inductive Source where
  | file (tail : Tail)
  | synthetic (stream : Synthetic)

namespace Source

/-- Opens a source; `file` is what stands at the path of a capture file. -/
def open? (file : FileState) : SourceSpec → Option Source
  | .file path follow => (Tail.start? path follow file).map .file
  | .synthetic count rateMs => some (.synthetic (.start count (rateMs.map (· * 1000000))))

/-- More messages may arrive. -/
def isLive : Source → Bool
  | file tail => tail.isLive
  | synthetic stream => stream.isLive

/-- The messages that are due, with the capture file as it stands and at a time of the clock. -/
def poll (s : Source) (contents : FileState) (now : Int) :
    Logged (Source × Except IoError (List Message)) :=
  match s with
  | file tail => do
    let (tail, outcome) ← tail.poll contents
    return (file tail, outcome)
  | synthetic stream =>
    let (messages, stream) := stream.pollAt now
    return (synthetic stream, .ok messages)

end Source

end FlowWatch.Capture
