import Std.Data.HashMap
import FlowWatch.Flow.Basic
import FlowWatch.Log.Event

/-!
# The flow store

The captured flows in the order in which they arrived, each identity once, with an index from
identities to positions.  A message adds, replaces, removes or starts over, and the store says which
of these it did.
-/

namespace FlowWatch

/-- What a message did to the store. -/
inductive StoreChange where
  /-- A flow was appended. -/
  | added
  /-- A flow was replaced in its place. -/
  | updated
  /-- A flow was removed. -/
  | removed
  /-- The whole sequence was replaced. -/
  | reset
  /-- Nothing changed. -/
  | unchanged
deriving DecidableEq, Repr

namespace StoreChange

/-- The sequence may have changed. -/
def isChange : StoreChange → Bool
  | unchanged => false
  | _ => true

/-- The name under which notes write it. -/
def name : StoreChange → String
  | added => "Added"
  | updated => "Updated"
  | removed => "Removed"
  | reset => "Reset"
  | unchanged => "Unchanged"

end StoreChange

/-- Flows in order of arrival, and the position of each identity. -/
structure FlowStore where
  flows : Array Flow
  index : Std.HashMap FlowId Nat

namespace FlowStore

/-- A store without flows. -/
def empty : FlowStore := ⟨#[], ∅⟩

instance : Inhabited FlowStore := ⟨empty⟩

/-- The number of flows. -/
def len (s : FlowStore) : Nat := s.flows.size

/-- There are no flows. -/
def isEmpty (s : FlowStore) : Bool := s.flows.isEmpty

/-- The flow of an identity. -/
def get? (s : FlowStore) (id : FlowId) : Option Flow := s.index[id]?.bind fun i => s.flows[i]?

/-- There is a flow of this identity. -/
def contains (s : FlowStore) (id : FlowId) : Bool := s.index.contains id

/-- Replaces the flow of the same identity in its place, or appends the flow. -/
def upsert (s : FlowStore) (flow : Flow) : FlowStore × StoreChange :=
  match s.index[flow.id]? with
  | some i =>
    if s.flows[i]? = some flow then (s, .unchanged)
    else ({ s with flows := s.flows.setIfInBounds i flow }, .updated)
  | none =>
    let position := s.flows.size
    (⟨s.flows.push flow, s.index.insert flow.id position⟩, .added)

/-- Stores flows one after another; a later one of the same identity replaces an earlier one. -/
def ofFlows (flows : List Flow) : FlowStore := flows.foldl (fun s flow => (s.upsert flow).1) empty

/-- Removes the flow of an identity; the flows after it move up. -/
def remove (s : FlowStore) (id : FlowId) : FlowStore × StoreChange :=
  match s.index[id]? with
  | some position =>
    (⟨s.flows.eraseIdxIfInBounds position,
      (s.index.erase id).map fun _ i => if position < i then i - 1 else i⟩, .removed)
  | none => (s, .unchanged)

/-- What a message does to the store. -/
def change (s : FlowStore) : Message → FlowStore × StoreChange
  | .add flow => s.upsert flow
  | .update flow => s.upsert flow
  | .remove id => s.remove id
  | .reset flows => (ofFlows flows, .reset)

/-- What is noted when a message has been applied: `len` flows are there afterwards. -/
def events (m : Message) (change : StoreChange) (len : Nat) : List Log.Event :=
  let ignored : List Log.Event := match m, change with
    | .remove id, .unchanged =>
      [⟨.debug, .store, "Ignoring removal of unknown flow", [("id", id.text)]⟩]
    | _, _ => []
  ignored ++ [⟨.trace, .store, "Applied flow message",
    [("change", change.name), ("len", toString len)]⟩]

/-- Applies a message. -/
def apply (s : FlowStore) (m : Message) : Logged (FlowStore × StoreChange) := do
  let (after, change) := s.change m
  Logged.noteAll (events m change after.len)
  return (after, change)

/-- Applies messages in order; the answer is whether any of them changed something. -/
def applyAll (s : FlowStore) : List Message → Logged (FlowStore × Bool)
  | [] => return (s, false)
  | m :: ms => do
    let (s, change) ← s.apply m
    let (s, changed) ← s.applyAll ms
    return (s, change.isChange || changed)

@[simp]
theorem value_apply (s : FlowStore) (m : Message) : (s.apply m).value = s.change m := rfl

@[simp]
theorem value_applyAll_nil (s : FlowStore) : (s.applyAll []).value = (s, false) := rfl

@[simp]
theorem value_applyAll_cons (s : FlowStore) (m : Message) (ms : List Message) :
    (s.applyAll (m :: ms)).value =
      (((s.change m).1.applyAll ms).value.1,
        (s.change m).2.isChange || ((s.change m).1.applyAll ms).value.2) := rfl

end FlowStore

end FlowWatch
