import Std.Data.HashMap
import FlowWatch.Table.Filter

/-!
# Ordered views

The flows that pass a filter, in the order of the captured sequence.  A view is derived as a whole
from the sequence and a filter; row `i` of it is the flow at `positions[i]` of the sequence, and its
identity is `ids[i]`.
-/

namespace FlowWatch

/-- The rows of the table: positions in the captured sequence, the identities found there, and the
row of each identity. -/
structure OrderedView where
  positions : Array Nat
  ids : Array FlowId
  rowOf : Std.HashMap FlowId Nat

namespace OrderedView

/-- The view of nothing. -/
def empty : OrderedView := ⟨#[], #[], ∅⟩

instance : Inhabited OrderedView := ⟨empty⟩

/-- Appends the flow at a position of the sequence as the last row. -/
def push (view : OrderedView) (position : Nat) (id : FlowId) : OrderedView :=
  let row := view.ids.size
  ⟨view.positions.push position, view.ids.push id, view.rowOf.insert id row⟩

/-- The flows that `spec` lets through, in their order. -/
def derive (flows : Array Flow) (spec : FilterSpec) : OrderedView :=
  flows.toList.zipIdx.foldl
    (fun view (flow, position) => if spec.admits flow then view.push position flow.id else view)
    empty

/-- The number of rows. -/
def len (view : OrderedView) : Nat := view.ids.size

/-- The view has no row. -/
def isEmpty (view : OrderedView) : Bool := view.ids.isEmpty

/-- The row of an identity; the last one, if several flows have it. -/
def indexOf (view : OrderedView) (id : FlowId) : Option Nat := view.rowOf[id]?

/-- The identity of the flow in a row. -/
def idAt (view : OrderedView) (index : Nat) : Option FlowId := view.ids[index]?

/-- The position in the captured sequence of the flow in a row. -/
def positionAt (view : OrderedView) (index : Nat) : Option Nat := view.positions[index]?

/-- The rows from `start` to before `stop` with their flows; rows past the end are left out. -/
def records (view : OrderedView) (flows : Array Flow) (start stop : Nat) : List (Nat × Flow) :=
  let stop := min stop view.len
  (List.range' start (stop - start)).filterMap fun index => do
    let position ← view.positionAt index
    let flow ← flows[position]?
    return (index, flow)

/-- Two views have the same rows. -/
def sameRows (a b : OrderedView) : Bool := a.positions == b.positions && a.ids == b.ids

@[simp]
theorem len_push (view : OrderedView) (position : Nat) (id : FlowId) :
    (view.push position id).len = view.len + 1 := by
  simp [push, len]

@[simp]
theorem derive_empty (spec : FilterSpec) : derive #[] spec = empty := rfl

end OrderedView

end FlowWatch
