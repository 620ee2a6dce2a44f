import FlowWatch.Table.Geometry
import FlowWatch.Table.HeightIndex

/-!
# Row metrics

A uniform row height together with measured heights for some rows.  A measured height counts only
if it is positive; every other row has the uniform height.
-/

namespace FlowWatch

/-- A uniform height, and measured heights by position in the view. -/
structure RowMetrics where
  rowHeight : RowHeight
  overrides : Array Nat
deriving DecidableEq, Repr

namespace RowMetrics

/-- Every row has the same height. -/
def uniform (rowHeight : RowHeight) : RowMetrics := ⟨rowHeight, #[]⟩

/-- No row has been measured. -/
def isUniform (m : RowMetrics) : Bool := m.overrides.isEmpty

/-- The height of the row at a position. -/
def heightOf (m : RowMetrics) (index : Nat) : Nat :=
  match m.overrides[index]? with
  | some height => if height = 0 then m.rowHeight.lines else height
  | none => m.rowHeight.lines

/-- The heights of the first `count` rows. -/
def heights (m : RowMetrics) (count : Nat) : List Nat := (List.range count).map m.heightOf

/-- The index of the first `count` rows; none if no row has been measured. -/
def heightIndex (m : RowMetrics) (count : Nat) : Option HeightIndex :=
  if m.isUniform then none else some (HeightIndex.ofHeights (m.heights count))

/-- The height of the first `count` rows together. -/
def contentHeight (m : RowMetrics) (count : Nat) : Nat :=
  if m.isUniform then count * m.rowHeight.lines else (m.heights count).foldr (· + ·) 0

@[simp]
theorem isUniform_uniform (rowHeight : RowHeight) : (uniform rowHeight).isUniform = true := rfl

theorem heightOf_pos (m : RowMetrics) (index : Nat) : 0 < m.heightOf index := by
  have := m.rowHeight.pos
  unfold heightOf
  split
  · split <;> omega
  · exact this

@[simp]
theorem length_heights (m : RowMetrics) (count : Nat) : (m.heights count).length = count := by
  simp [heights]

end RowMetrics

end FlowWatch
