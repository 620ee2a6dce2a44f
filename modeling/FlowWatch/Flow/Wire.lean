import FlowWatch.Flow.Basic
import FlowWatch.Json.Number
import FlowWatch.Text.Quoted
import FlowWatch.Time.Printer
import FlowWatch.Time.Reader

/-!
# Flow messages as JSON

A message is an object with a `cmd` member that names the change, and further members that carry it;
a bare flow is short for its addition.  Members are looked at in the order of their keys, unknown
ones are passed over, and the first that does not fit is reported; then missing ones are, in the
order of the fields.

A record may also be written as an array of its fields in order.  A kind may be an object with one
member that names it and holds nothing.
-/

namespace FlowWatch.Wire

/-! ## Refusals -/

/-- What a place of a message is meant to hold. -/
inductive Expected where
  | flow
  | httpRequest
  | httpResponse
  | string
  | flows
  | kind
  | nothing
  | kindName
  | shortNumber
  | longNumber
  | time
  | command
deriving DecidableEq, Repr

/-- The words for what a place is meant to hold. -/
def Expected.text : Expected → String
  | flow => "struct Flow"
  | httpRequest => "struct HttpRequest"
  | httpResponse => "struct HttpResponse"
  | string => "a string"
  | flows => "a sequence"
  | kind => "string or map"
  | nothing => "unit"
  | kindName => "map with a single key"
  | shortNumber => "u16"
  | longNumber => "u64"
  | time => "an RFC 3339 formatted date and time string"
  | command => "variant identifier"

/-- Why a value is no message. -/
inductive Error where
  /-- A value of the wrong sort. -/
  | wrongType (found : Json) (expected : Expected)
  /-- A value of the right sort that does not fit. -/
  | wrongValue (found : Json) (expected : Expected)
  /-- An array with too few items for a record of `fields` fields. -/
  | tooFew (len : Nat) (record : Expected) (fields : Nat)
  /-- An array with more items than a record has fields. -/
  | tooMany (len : Nat)
  /-- The same, inside a message. -/
  | tooManyInside (len : Nat) (fields : Nat)
  /-- A name outside the given ones. -/
  | unknownName (name : String) (known : List String)
  /-- A field without a value. -/
  | missing (field : String)
  /-- A flow with an empty identity. -/
  | emptyId
  /-- A text that is no time stamp. -/
  | time (cause : Stamp.ReadError)
deriving Repr

/-- A value in the words of a refusal. -/
def describe : Json → String
  | .null => "null"
  | .bool b => "boolean `" ++ toString b ++ "`"
  | .number (.double s d) => "floating point `" ++ (JsonNumber.double s d).write ++ "`"
  | .number n => "integer `" ++ n.write ++ "`"
  | .string s => "string " ++ Text.quote s
  | .array _ => "sequence"
  | .object _ => "map"

/-- A name between backquotes. -/
def backquoted (name : String) : String := "`" ++ name ++ "`"

/-- A count of items. -/
def elements (n : Nat) : String := toString n ++ (if n = 1 then " element" else " elements")

/-- The text of a refusal. -/
def Error.message : Error → String
  | wrongType found expected => "invalid type: " ++ describe found ++ ", expected " ++ expected.text
  | wrongValue found expected =>
    "invalid value: " ++ describe found ++ ", expected " ++ expected.text
  | tooFew len record fields =>
    "invalid length " ++ toString len ++ ", expected " ++ record.text ++ " with " ++ elements fields
  | tooMany len => "invalid length " ++ toString len ++ ", expected fewer elements in array"
  | tooManyInside len fields =>
    "invalid length " ++ toString len ++ ", expected " ++ elements fields ++ " in sequence"
  | unknownName name known =>
    "unknown variant " ++ backquoted name ++ ", expected one of " ++
      String.intercalate ", " (known.map backquoted)
  | missing field => "missing field " ++ backquoted field
  | emptyId => FlowId.emptyMessage
  | time cause => cause.message

/-! ## Reading -/

/-- Where a record stands: on its own, or inside a message. -/
inductive Place where
  | alone
  | inside
deriving DecidableEq, Repr

/-- A text. -/
def string : Json → Except Error String
  | .string s => .ok s
  | found => .error (.wrongType found .string)

/-- The identity of a flow. -/
def flowId (v : Json) : Except Error FlowId := do
  let s ← string v
  match FlowId.ofText? s with
  | some id => return id
  | none => throw .emptyId

/-- A kind by its name. -/
def kindNamed (name : String) : Except Error Kind :=
  match Kind.ofWireName? name with
  | some kind => .ok kind
  | none => .error (.unknownName name (Kind.all.map Kind.wireName))

/-- A member that holds nothing; inside a message an empty object will do as well. -/
def nothing (place : Place) : Json → Except Error Unit
  | .null => .ok ()
  | .object [] => if place = .inside then .ok () else .error (.wrongType (.object []) .nothing)
  | found => .error (.wrongType found .nothing)

/-- A kind. -/
def kind (place : Place) : Json → Except Error Kind
  | .string name => kindNamed name
  | .object [(name, value)] => do
    let kind ← kindNamed name
    nothing place value
    return kind
  | .object members => .error (.wrongValue (.object members) .kindName)
  | found => .error (.wrongType found .kind)

/-- A whole number up to a bound. -/
def number (max : Nat) (expected : Expected) : Json → Except Error Nat
  | .number (.natural n) =>
    if n ≤ max then .ok n else .error (.wrongValue (.number (.natural n)) expected)
  | .number (.negative n) => .error (.wrongValue (.number (.negative n)) expected)
  | found => .error (.wrongType found expected)

/-- A status code. -/
def statusCode : Json → Except Error Nat := number 65535 .shortNumber

/-- A length in bytes. -/
def contentLength : Json → Except Error Nat := number (Nat.pow 2 64 - 1) .longNumber

/-- A time stamp. -/
def stamp : Json → Except Error Stamp
  | .string s => (Stamp.read s.toList).mapError .time
  | found => .error (.wrongType found .time)

/-- A value that may be absent. -/
def optional {α : Type} (read : Json → Except Error α) : Json → Except Error (Option α)
  | .null => .ok none
  | v => some <$> read v

/-- A field that has to have a value. -/
def required {α : Type} (name : String) : Option α → Except Error α
  | some a => .ok a
  | none => .error (.missing name)

/-- Refuses items beyond the fields of a record. -/
def checkLength (place : Place) (len fields : Nat) : Except Error Unit :=
  if len ≤ fields then .ok ()
  else .error (match place with
    | .alone => .tooMany len
    | .inside => .tooManyInside len fields)

/-- The fields of a record, in order: each reads one value into a record under construction, and
says whether an array may end before it. -/
structure Field (ρ : Type) where
  name : String
  read : Json → ρ → Except Error ρ
  hasDefault : Bool

/-- Reads members in order into a record under construction. -/
def readMembers {ρ : Type} (fields : List (Field ρ)) (members : List (String × Json)) (r : ρ) :
    Except Error ρ :=
  members.foldlM (fun r (key, value) =>
    match fields.find? fun f => f.name == key with
    | some f => f.read value r
    | none => .ok r) r

/-- Reads items in order into a record under construction; `done` of them have been read. -/
def readItems {ρ : Type} (record : Expected) (count : Nat) :
    List (Field ρ) → List Json → Nat → ρ → Except Error ρ
  | [], _, _, r => .ok r
  | f :: fields, [], done, r =>
    if f.hasDefault then readItems record count fields [] (done + 1) r
    else .error (.tooFew done record count)
  | f :: fields, item :: items, done, r => do
    let r ← f.read item r
    readItems record count fields items (done + 1) r

/-- Reads a record from an object or an array. -/
def readRecord {ρ : Type} (place : Place) (record : Expected) (fields : List (Field ρ))
    (start : ρ) : Json → Except Error ρ
  | .object members => readMembers fields members start
  | .array items => do
    let r ← readItems record fields.length fields items 0 start
    checkLength place items.length fields.length
    return r
  | found => .error (.wrongType found record)

/-- A request under construction. -/
structure PartialRequest where
  method : Option String
  host : Option String
  path : Option String

/-- The fields of a request. -/
def requestFields : List (Field PartialRequest) :=
  [⟨"method", fun v r => do return { r with method := some (← string v) }, false⟩,
   ⟨"host", fun v r => do return { r with host := some (← string v) }, false⟩,
   ⟨"path", fun v r => do return { r with path := some (← string v) }, true⟩]

/-- A request; without a path it is for the root. -/
def request (place : Place) (v : Json) : Except Error HttpRequest := do
  let r ← readRecord place .httpRequest requestFields ⟨none, none, none⟩ v
  return ⟨← required "method" r.method, ← required "host" r.host, r.path.getD "/"⟩

/-- A response under construction. -/
structure PartialResponse where
  statusCode : Option Nat
  contentLength : Option Nat

/-- The fields of a response. -/
def responseFields : List (Field PartialResponse) :=
  [⟨"status_code", fun v r => do return { r with statusCode := some (← statusCode v) }, false⟩,
   ⟨"content_length", fun v r => do
      return { r with contentLength := ← optional contentLength v }, true⟩]

/-- A response. -/
def response (place : Place) (v : Json) : Except Error HttpResponse := do
  let r ← readRecord place .httpResponse responseFields ⟨none, none⟩ v
  return ⟨← required "status_code" r.statusCode, r.contentLength⟩

/-- A flow under construction. -/
structure PartialFlow where
  id : Option FlowId
  kind : Option Kind
  timestamp : Option Stamp
  server : Option String
  request : Option HttpRequest
  response : Option HttpResponse

/-- The fields of a flow. -/
def flowFields (place : Place) : List (Field PartialFlow) :=
  [⟨"id", fun v r => do return { r with id := some (← flowId v) }, false⟩,
   ⟨"type", fun v r => do return { r with kind := some (← kind place v) }, false⟩,
   ⟨"timestamp", fun v r => do return { r with timestamp := some (← stamp v) }, false⟩,
   ⟨"server", fun v r => do return { r with server := ← optional string v }, true⟩,
   ⟨"request", fun v r => do return { r with request := ← optional (request place) v }, true⟩,
   ⟨"response", fun v r => do return { r with response := ← optional (response place) v }, true⟩]

/-- A flow. -/
def flow (place : Place) (v : Json) : Except Error Flow := do
  let r ← readRecord place .flow (flowFields place) ⟨none, none, none, none, none, none⟩ v
  return ⟨← required "id" r.id, ← required "type" r.kind, ← required "timestamp" r.timestamp,
    r.server, r.request, r.response⟩

/-- A list of flows. -/
def flows : Json → Except Error (List Flow)
  | .array items => items.mapM (flow .inside)
  | found => .error (.wrongType found .flows)

/-- The changes a message can name. -/
inductive Command where
  | add
  | update
  | remove
  | reset
deriving DecidableEq, Repr

namespace Command

/-- Every command. -/
def all : List Command := [add, update, remove, reset]

/-- The name under which messages give a command. -/
def wireName : Command → String
  | add => "add"
  | update => "update"
  | remove => "remove"
  | reset => "reset"

end Command

/-- A command by its name. -/
def command : Json → Except Error Command
  | .string name =>
    match Command.all.find? fun c => c.wireName == name with
    | some c => .ok c
    | none => .error (.unknownName name (Command.all.map Command.wireName))
  | found => .error (.wrongType found .command)

/-- Reads the one member that a command needs. -/
def payload {α : Type} (name : String) (read : Json → Except Error α)
    (members : List (String × Json)) : Except Error α := do
  match members.find? fun m => m.1 == name with
  | some (_, v) => read v
  | none => throw (.missing name)

/-- A message from its members. -/
def tagged (tag : Json) (members : List (String × Json)) : Except Error Message := do
  match ← command tag with
  | .add => .add <$> payload "flow" (flow .inside) members
  | .update => .update <$> payload "flow" (flow .inside) members
  | .remove => .remove <$> payload "id" flowId members
  | .reset => .reset <$> payload "flows" flows members

/-- A message, or the addition of a bare flow. -/
def message (v : Json) : Except Error Message :=
  match v, v.member? "cmd" with
  | .object members, some tag => tagged tag members
  | v, _ => .add <$> flow .alone v

/-! ## Writing -/

/-- A value that may be absent, written. -/
def ofOptional {α : Type} (write : α → Json) : Option α → Json
  | some a => write a
  | none => .null

/-- A request as an object. -/
def ofRequest (r : HttpRequest) : Json :=
  .object [("method", .string r.method), ("host", .string r.host), ("path", .string r.path)]

/-- A response as an object. -/
def ofResponse (r : HttpResponse) : Json :=
  .object [("status_code", .number (.natural r.statusCode)),
    ("content_length", ofOptional (fun n => .number (.natural n)) r.contentLength)]

/-- A flow as an object of all its fields. -/
def ofFlow (f : Flow) : Json :=
  .object [("id", .string f.id.text), ("type", .string f.kind.wireName),
    ("timestamp", .string f.timestamp.text), ("server", ofOptional .string f.server),
    ("request", ofOptional ofRequest f.request), ("response", ofOptional ofResponse f.response)]

/-- A message as an object. -/
def ofMessage : Message → Json
  | .add f => .object [("cmd", .string "add"), ("flow", ofFlow f)]
  | .update f => .object [("cmd", .string "update"), ("flow", ofFlow f)]
  | .remove id => .object [("cmd", .string "remove"), ("id", .string id.text)]
  | .reset fs => .object [("cmd", .string "reset"), ("flows", .array (fs.map ofFlow))]

end FlowWatch.Wire
