import FlowWatch.Flow.Basic

/-!
# Synthetic traffic

A reproducible stream of flows: an initial batch, and then one flow for each period of the clock.
An HTTP flow is emitted with its request, and answered by an update at the next poll that emits
anything.

Choices are drawn from a linear congruential sequence, so that two runs give the same traffic.

Periods are counted from a reference time, which moves on by those that have passed and not to the
time of the poll.  They are counted by a machine word, of which the reference time takes the lower
half.
-/

namespace FlowWatch.Capture

/-- The state of the sequence that choices are drawn from. -/
structure Dice where
  state : UInt64
deriving DecidableEq, Repr

namespace Dice

/-- The state that every stream starts from. -/
def initial : Dice := ⟨0x5eedf10e⟩

/-- Draws the next number, below two to the power of 31. -/
def draw (d : Dice) : Nat × Dice :=
  let state := d.state * 6364136223846793005 + 1442695040888963407
  ((state >>> 33).toNat, ⟨state⟩)

/-- Draws one of some items. -/
def pick {α : Type} (d : Dice) (first : α) (others : List α) : α × Dice :=
  let (n, d) := d.draw
  (((first :: others)[n % (others.length + 1)]?).getD first, d)

end Dice

namespace Synthetic

/-- Draws a host. -/
def pickHost (d : Dice) : String × Dice :=
  d.pick "api.example.com"
    ["cdn.example.net", "auth.internal", "telemetry.example.org", "static.example.com"]

/-- Draws a request method. -/
def pickMethod (d : Dice) : String × Dice := d.pick "GET" ["GET", "POST", "PUT"]

/-- Draws a request path. -/
def pickPath (d : Dice) : String × Dice :=
  d.pick "/" ["/v1/items", "/login", "/assets/app.js", "/metrics"]

/-- Draws a status code. -/
def pickStatus (d : Dice) : Nat × Dice := d.pick 200 [200, 204, 304, 404]

/-- The kind of a draw: six in ten flows are HTTP, two DNS, one TCP and one UDP. -/
def kindOf (n : Nat) : Kind :=
  let n := n % 10
  if n ≤ 5 then .http else if n ≤ 7 then .dns else if n = 8 then .tcp else .udp

/-- The first day of the traffic; flows start four times in a second. -/
def epoch : Date := ⟨2025, 1, 1⟩

end Synthetic

/-- A stream of synthetic flows.  Times are nanoseconds of a clock that may also go back. -/
structure Synthetic where
  dice : Dice
  generated : Nat
  initialCount : Nat
  started : Bool
  rate : Option Nat
  lastTick : Int
  awaiting : List Flow

namespace Synthetic

/-- A stream of `initialCount` flows at first, and then one in every period; without a period it
ends once the initial flows have been answered. -/
def start (initialCount : Nat) (rate : Option Nat) : Synthetic :=
  ⟨.initial, 0, initialCount, false, rate, 0, []⟩

/-- A later poll may still yield messages. -/
def isLive (s : Synthetic) : Bool := !s.started || s.rate.isSome || !s.awaiting.isEmpty

/-- Draws a peer address in a private network. -/
def drawServer (d : Dice) (n : Nat) : String × Dice :=
  let octet := d.draw
  let port := octet.2.draw
  ("10.0." ++ toString (n % 8) ++ "." ++ toString (octet.1 % 250 + 1) ++ ":" ++
    toString (1024 + port.1 % 50000), port.2)

/-- Draws a request to a host. -/
def drawRequest (d : Dice) (host : String) : HttpRequest × Dice :=
  let method := pickMethod d
  let path := pickPath method.2
  (⟨method.1, host, path.1⟩, path.2)

/-- Draws a response. -/
def drawResponse (d : Dice) : HttpResponse × Dice :=
  let status := pickStatus d
  let length := status.2.draw
  (⟨status.1, some (length.1 % 64000)⟩, length.2)

/-- Draws the peer of the `n`th flow, and its request if it is an HTTP flow. -/
def drawPeer (d : Dice) (kind : Kind) (host : String) (n : Nat) :
    (String × Option HttpRequest) × Dice :=
  match kind with
  | .dns => (("10.0.0.53:53", none), d)
  | .http =>
    let request := drawRequest d host
    ((host ++ ":443", some request.1), request.2)
  | _ =>
    let server := drawServer d n
    ((server.1, none), server.2)

/-- Draws the `n`th flow. -/
def drawFlow (d : Dice) (n : Nat) : Flow × Dice :=
  let roll := d.draw
  let kind := kindOf roll.1
  let host := pickHost roll.2
  let peer := drawPeer host.2 kind host.1 n
  ({ id := .sequential "syn" n, kind, timestamp := .afterMidnight epoch (n * 250),
     server := some peer.1.1, request := peer.1.2, response := none }, peer.2)

/-- Draws the next flow of the stream. -/
def nextFlow (s : Synthetic) : Flow × Synthetic :=
  let drawn := drawFlow s.dice s.generated
  (drawn.1, { s with dice := drawn.2, generated := s.generated + 1 })

/-- Draws flows in order. -/
def nextFlows (s : Synthetic) : Nat → List Flow × Synthetic
  | 0 => ([], s)
  | count + 1 =>
    let first := s.nextFlow
    let others := first.2.nextFlows count
    (first.1 :: others.1, others.2)

/-- Answers the HTTP flows of a batch but the last one, which is handed back as well. -/
def answerBatch (d : Dice) : List Flow → List Flow × Option Flow × Dice
  | [] => ([], none, d)
  | flow :: flows =>
    if flow.kind = .http && flows.any (fun f => f.kind == .http) then
      let response := drawResponse d
      let others := answerBatch response.2 flows
      ({ flow with response := some response.1 } :: others.1, others.2)
    else
      let others := answerBatch d flows
      (flow :: others.1, if flow.kind = .http then some flow else others.2.1, others.2.2)

/-- Emits the initial batch as a reset. -/
def initialBatch (s : Synthetic) : List Message × Synthetic :=
  let drawn := s.nextFlows s.initialCount
  let batch := answerBatch drawn.2.dice drawn.1
  ([.reset batch.1],
    { drawn.2 with dice := batch.2.2, awaiting := drawn.2.awaiting ++ batch.2.1.toList })

/-- Answers flows in order. -/
def answerFlows (d : Dice) : List Flow → List Message × Dice
  | [] => ([], d)
  | flow :: flows =>
    let response := drawResponse d
    let others := answerFlows response.2 flows
    (.update { flow with response := some response.1 } :: others.1, others.2)

/-- Answers the flows that await a response. -/
def answerPending (s : Synthetic) : List Message × Synthetic :=
  let answers := answerFlows s.dice s.awaiting
  (answers.1, { s with dice := answers.2, awaiting := [] })

/-- Emits the next flow. -/
def nextMessage (s : Synthetic) : Message × Synthetic :=
  let next := s.nextFlow
  (.add next.1,
    if next.1.kind = .http then { next.2 with awaiting := next.2.awaiting ++ [next.1] } else next.2)

/-- Emits flows in order. -/
def nextMessages (s : Synthetic) : Nat → List Message × Synthetic
  | 0 => ([], s)
  | count + 1 =>
    let first := s.nextMessage
    let others := first.2.nextMessages count
    (first.1 :: others.1, others.2)

/-- The periods that have passed at a time, as far as 64 bits count them; a clock without period
ticks at every poll. -/
def dueAt (s : Synthetic) (rate : Nat) (now : Int) : Nat :=
  if rate = 0 then 1 else (now - s.lastTick).toNat / rate % 18446744073709551616

/-- The reference time after some periods, of which 32 bits count. -/
def tickAfter (s : Synthetic) (rate due : Nat) : Int :=
  s.lastTick + (rate * (due % 4294967296) : Nat)

/-- The messages that are due at a time. -/
def pollAt (s : Synthetic) (now : Int) : List Message × Synthetic :=
  if !s.started then { s with started := true, lastTick := now }.initialBatch
  else match s.rate with
    | none => s.answerPending
    | some rate =>
      let due := s.dueAt rate now
      if due = 0 then ([], s)
      else
        let answers := { s with lastTick := s.tickAfter rate due }.answerPending
        let flows := answers.2.nextMessages due
        (answers.1 ++ flows.1, flows.2)

end Synthetic

end FlowWatch.Capture
