import FlowWatch.Time.Stamp

/-!
# Captured flows

One row of the table is a `Flow`: an identity that stays through updates, a kind, the time it
started, and what is known of its peer, its request and its response.  A `Message` is one change to
the captured sequence.
-/

namespace FlowWatch

/-- The identity of a flow, any text but the empty one. -/
structure FlowId where
  text : String
  ne_empty : text ≠ ""
deriving DecidableEq

namespace FlowId

instance : Hashable FlowId := ⟨fun id => hash id.text⟩

/-- Accepts every text but the empty one. -/
def ofText? (text : String) : Option FlowId :=
  if h : text = "" then none else some ⟨text, h⟩

/-- The text of the refusal of an empty identity. -/
def emptyMessage : String := "Flow id must not be empty"

/-- `digits` written in front of with zeros up to `width` characters. -/
def zeroPadded (n width : Nat) : String :=
  let digits := toString n
  "".pushn '0' (width - digits.length) ++ digits

/-- The identity of the `n`th generated flow. -/
def sequential (stem : String) (n : Nat) : FlowId where
  text := stem ++ ("-" ++ zeroPadded n 6)
  ne_empty := by
    intro h
    have := congrArg String.toList h
    simp at this

theorem ofText?_eq_some_iff {text : String} {id : FlowId} :
    ofText? text = some id ↔ id.text = text := by
  unfold ofText?
  split
  · constructor
    · intro h; cases h
    · rintro rfl; exact absurd ‹_› id.ne_empty
  · constructor
    · rintro ⟨⟩; rfl
    · rintro rfl; rfl

end FlowId

/-- The protocol of a flow. -/
inductive Kind where
  | http
  | tcp
  | udp
  | dns
deriving DecidableEq, Repr

namespace Kind

/-- Every kind, in the order in which kinds are shown. -/
def all : List Kind := [http, tcp, udp, dns]

/-- The kind under which messages name it. -/
def wireName : Kind → String
  | http => "http"
  | tcp => "tcp"
  | udp => "udp"
  | dns => "dns"

/-- The label under which the table shows it. -/
def label : Kind → String
  | http => "HTTP"
  | tcp => "TCP"
  | udp => "UDP"
  | dns => "DNS"

/-- The name under which notes and key actions write it. -/
def noteName : Kind → String
  | http => "Http"
  | tcp => "Tcp"
  | udp => "Udp"
  | dns => "Dns"

/-- The kind with a wire name. -/
def ofWireName? (name : String) : Option Kind := all.find? fun k => k.wireName == name

/-- Only an HTTP exchange has a request and a response, and so a direction. -/
def isDirectional : Kind → Bool
  | http => true
  | _ => false

theorem mem_all (k : Kind) : k ∈ all := by
  cases k <;> simp [all]

end Kind

/-- The request half of an HTTP exchange. -/
structure HttpRequest where
  method : String
  host : String
  path : String
deriving DecidableEq, Repr

/-- The response half of an HTTP exchange. -/
structure HttpResponse where
  statusCode : Nat
  contentLength : Option Nat
deriving DecidableEq, Repr

/-- One captured flow. -/
structure Flow where
  id : FlowId
  kind : Kind
  timestamp : Stamp
  server : Option String
  request : Option HttpRequest
  response : Option HttpResponse
deriving DecidableEq

namespace Flow

/-- A request has been captured. -/
def hasRequest (f : Flow) : Bool := f.request.isSome

/-- A response has been captured. -/
def hasResponse (f : Flow) : Bool := f.response.isSome

/-- One line that names the target of the flow. -/
def summary (f : Flow) : String :=
  match f.request, f.server with
  | some request, _ => request.host ++ request.path
  | none, some server => server
  | none, none => ""

end Flow

/-- One change to the captured sequence. -/
inductive Message where
  | add (flow : Flow)
  | update (flow : Flow)
  | remove (id : FlowId)
  | reset (flows : List Flow)
deriving DecidableEq

end FlowWatch
