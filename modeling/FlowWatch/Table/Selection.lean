import FlowWatch.Table.Geometry
import FlowWatch.Table.OrderedView

/-!
# Selection

Selected and highlighted flows, and the least scroll that shows a newly selected one.  Highlighting
is presentation only.
-/

namespace FlowWatch

/-- The least scroll after which a row spanning `rowHeight` lines from `rowTop` is shown fully below
a header; none if it is shown already.  A row taller than the viewport is aligned to its bottom
edge. -/
def scrollAdjustmentForRow (rowTop rowHeight headerHeight : Nat) (v : Viewport) : Option Int :=
  let top := Offset.ofHeight rowTop
  let bottom := Offset.saturate (Offset.saturate (top + headerHeight) + rowHeight)
  if top < v.top then some top
  else if bottom > v.bottom then some (bottom - v.height)
  else none

/-- `scrollAdjustmentForRow` for rows of one height. -/
def scrollAdjustment (index : Nat) (rowHeight : RowHeight) (headerHeight : Nat) (v : Viewport) :
    Option Int :=
  scrollAdjustmentForRow (index * rowHeight.lines) rowHeight.lines headerHeight v

/-- Selected flows, the most recent last, and highlighted flows. -/
structure Selection where
  selected : List FlowId
  highlighted : List FlowId
deriving DecidableEq

namespace Selection

/-- Nothing is selected or highlighted. -/
def nothing : Selection := ⟨[], []⟩

instance : Inhabited Selection := ⟨nothing⟩

/-- Selects exactly these flows; of a repeated one the first mention counts. -/
def select (s : Selection) (ids : List FlowId) : Selection :=
  { s with selected := ids.foldl (fun seen id => if id ∈ seen then seen else seen ++ [id]) [] }

/-- Selects nothing. -/
def clear (s : Selection) : Selection := { s with selected := [] }

/-- The flow is selected. -/
def isSelected (s : Selection) (id : FlowId) : Bool := s.selected.contains id

/-- The selected flow, if it is the only one. -/
def only (s : Selection) : Option FlowId :=
  match s.selected with
  | [id] => some id
  | _ => none

/-- The flow selected last. -/
def last (s : Selection) : Option FlowId := s.selected.getLast?

/-- Highlights exactly these flows. -/
def highlight (s : Selection) (ids : List FlowId) : Selection := { s with highlighted := ids }

/-- The flow is highlighted. -/
def isHighlighted (s : Selection) (id : FlowId) : Bool := s.highlighted.contains id

/-- Forgets the flows that no longer exist. -/
def retain (s : Selection) (exist : FlowId → Bool) : Selection :=
  ⟨s.selected.filter exist, s.highlighted.filter exist⟩

/-- Moves a row index by `shift`, within `0` and `last`. -/
def shifted (index : Nat) (shift : Int) (last : Nat) : Nat := min ((index + shift).toNat) last

/-- Selects the flow `shift` rows away from the one selected last.  Without a selected flow in the
view, a negative shift selects the first row and any other the last; an empty view selects
nothing. -/
def selectRelative (s : Selection) (view : OrderedView) (shift : Int) : Selection :=
  if view.isEmpty then s.clear
  else
    let bound := view.len - 1
    let target := match s.last.bind view.indexOf with
      | some index => shifted index shift bound
      | none => if shift < 0 then 0 else bound
    match view.idAt target with
    | some id => s.select [id]
    | none => s.clear

@[simp]
theorem select_singleton (s : Selection) (id : FlowId) : (s.select [id]).selected = [id] := by
  simp [select]

@[simp]
theorem clear_selected (s : Selection) : s.clear.selected = [] := rfl

end Selection

/-- Scrolls a newly selected flow into view, once for each new selection. -/
structure SelectionFollower where
  headerHeight : Nat
  followed : Option FlowId
deriving DecidableEq

namespace SelectionFollower

/-- A follower below a header, which has followed nothing yet. -/
def ofHeaderHeight (headerHeight : Nat) : SelectionFollower := ⟨headerHeight, none⟩

/-- Remembers the only selected flow, and answers the scroll that shows it if it is newly the only
one, is in the view and is not shown fully.  `span` gives the offset and height of a row. -/
def follow (f : SelectionFollower) (selection : Selection) (view : OrderedView) (v : Viewport)
    (span : Nat → Nat × Nat) : SelectionFollower × Option Int :=
  if selection.only = f.followed then (f, none)
  else
    ({ f with followed := selection.only },
      (selection.only.bind view.indexOf).bind fun index =>
        scrollAdjustmentForRow (span index).1 (span index).2 f.headerHeight v)

@[simp]
theorem follow_headerHeight (f : SelectionFollower) (selection : Selection) (view : OrderedView)
    (v : Viewport) (span : Nat → Nat × Nat) :
    (f.follow selection view v span).1.headerHeight = f.headerHeight := by
  unfold follow
  split <;> rfl

end SelectionFollower

end FlowWatch
