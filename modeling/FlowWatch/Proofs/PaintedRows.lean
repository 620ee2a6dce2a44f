import Mathlib
import FlowWatch.App
import FlowWatch.Proofs.DerivedView
import FlowWatch.Proofs.LineDrawing
import FlowWatch.Proofs.RowGeometry

/-!
# What is painted is what is clicked

A table is drawn from its rows and clicked on its lines.  Drawing places a row: from the offset of
the row to the line where it begins, cut off at the header and at the end of the table.  Clicking
searches a row: from the line to the offset that it shows, and from there to the row that spans this
offset.  Both go by one correspondence of lines and offsets (`TablePlace.offsetAt`): a row covers
exactly the body lines whose offsets it spans (`covers_iff`), and the row found at a body line is
the one that spans its offset (`rowAt?_eq`).

As rows span different offsets, no two of them cover one line.  A line of the drawn table therefore
shows the one row that covers it as if there were no other, and a click selects the flow of that row
(`painted_row_is_clicked_row`).
-/

namespace FlowWatch

namespace Controller

/-- The row `i` spans an offset below the header. -/
def Spans (c : Controller) (i : Nat) (offset : Int) : Prop :=
  (c.rowOffset i : Int) ≤ offset ∧ offset < c.rowOffset i + c.rowHeightOf i

variable {settings : TableSettings} {told : Contents} {c : Controller} {i j : Nat} {offset : Int}

/-- The row found at an offset is the one that spans it. -/
lemma Arranged.indexAtOffset_toNat_iff (h : Arranged settings told c) (hnonneg : 0 ≤ offset) :
    c.indexAtOffset offset.toNat = some i ↔ i < c.view.len ∧ c.Spans i offset := by
  rw [h.indexAtOffset_eq_some_iff, Spans]
  omega

/-- No two rows span one offset. -/
lemma Arranged.eq_of_spans (h : Arranged settings told c) (hi : i < c.view.len)
    (hj : j < c.view.len) (hspans : c.Spans i offset) (hspans' : c.Spans j offset) : i = j := by
  have hnonneg : 0 ≤ offset := (Int.natCast_nonneg _).trans hspans.1
  have hfound := (h.indexAtOffset_toNat_iff hnonneg).mpr ⟨hi, hspans⟩
  rw [(h.indexAtOffset_toNat_iff hnonneg).mpr ⟨hj, hspans'⟩] at hfound
  exact (Option.some.inj hfound).symm

/-- The viewport of a coherent table begins inside the scroll extent. -/
lemma Coherent.viewportTop_range (h : Coherent settings told c) :
    0 ≤ c.viewportTop ∧ c.viewportTop ≤ c.scrollExtent := by
  rw [viewportTop]
  cases hv : c.viewport with
  | none => exact ⟨le_rfl, Int.natCast_nonneg _⟩
  | some v =>
    obtain ⟨hnonneg, hmax⟩ := h.top_mem v hv
    simp only [Option.map_some, Option.getD_some]
    unfold maxScrollTop Offset.ofHeight at hmax
    omega

end Controller

namespace Screen

/-! ## Lines and offsets -/

/-- The cells of a rectangle. -/
lemma Area.contains_iff {area : Area} {column row : Nat} :
    area.contains column row = true ↔
      (area.left ≤ column ∧ column < area.right) ∧ area.top ≤ row ∧ row < area.bottom := by
  simp [contains, and_assoc]

namespace TablePlace

/-- The offset below the header that a line of the screen shows. -/
def offsetAt (p : TablePlace) (c : Controller) (y : Nat) : Int :=
  c.viewportTop + ((y : Int) - p.bodyTop)

/-- The line `y` is one of the body lines of the row `i`. -/
def Covers (p : TablePlace) (c : Controller) (i y : Nat) : Prop :=
  (p.bodyLines c i).1 ≤ y ∧ y < (p.bodyLines c i).2

end TablePlace

section Lines

variable {settings : TableSettings} {told : Controller.Contents} {c : Controller} {area : Area}
  {i y : Nat}

/-- A row begins on the line that shows its offset, as long as nothing leaves the offsets that can
be represented. -/
lemma firstLine_eq (h : Controller.Coherent settings told c) (hextent : c.scrollExtent ≤ 2 ^ 62)
    (harea : area.top ≤ Area.limit) (hi : i < c.view.len) :
    (TablePlace.ofArea area c.headerHeight).firstLine c i =
      (TablePlace.ofArea area c.headerHeight).bodyTop + c.rowOffset i - c.viewportTop := by
  obtain ⟨hnonneg, htop⟩ := h.viewportTop_range
  have hrow := h.rowOffset_add_rowHeightOf_le hi
  have hcontent : c.contentHeight ≤ c.scrollExtent := Nat.le_add_left ..
  have hbody : (TablePlace.ofArea area c.headerHeight).bodyTop ≤ Area.limit + Area.limit :=
    Nat.add_le_add harea ((Nat.min_le_left ..).trans (Nat.min_le_right ..))
  simp only [Area.limit] at hbody
  have hbelow : Offset.ofHeight (c.rowOffset i) = c.rowOffset i := by
    apply Offset.ofHeight_eq
    simp only [Offset.highest]
    omega
  have hsum : Offset.saturate ((TablePlace.ofArea area c.headerHeight).bodyTop + c.rowOffset i) =
      (TablePlace.ofArea area c.headerHeight).bodyTop + c.rowOffset i := by
    apply Offset.saturate_eq_self <;> simp only [Offset.lowest, Offset.highest] <;> omega
  rw [TablePlace.firstLine, hbelow, hsum]
  apply Offset.saturate_eq_self <;> simp only [Offset.lowest, Offset.highest] <;> omega

/-- A row covers exactly the body lines whose offsets it spans, as long as nothing leaves the
offsets that can be represented. -/
lemma covers_iff (h : Controller.Coherent settings told c) (hextent : c.scrollExtent ≤ 2 ^ 62)
    (hi : i < c.view.len) :
    (TablePlace.ofArea area c.headerHeight).Covers c i y ↔
      ((TablePlace.ofArea area c.headerHeight).bodyTop ≤ y ∧ y < area.bottom) ∧
        c.Spans i ((TablePlace.ofArea area c.headerHeight).offsetAt c y) := by
  have hbottom : (TablePlace.ofArea area c.headerHeight).area.bottom = area.bottom := rfl
  rw [TablePlace.Covers, TablePlace.bodyLines, hbottom, TablePlace.offsetAt, Controller.Spans]
  by_cases harea : area.top ≤ Area.limit
  · rw [firstLine_eq h hextent harea hi]
    omega
  · -- the area lies below the last line that there can be
    have hbody : area.top ≤ (TablePlace.ofArea area c.headerHeight).bodyTop :=
      Nat.le_add_right ..
    have hlimit : area.bottom ≤ Area.limit := Nat.min_le_right ..
    omega

end Lines

/-! ## Painting -/

/-- The table draws the row of a record on the line `y`. -/
def Paints (area : Area) (c : Controller) (flows : Array Flow) (y : Nat) (record : Nat × Flow) :
    Prop :=
  area.isEmpty = false ∧ record ∈ c.visibleRecords flows ∧
    (TablePlace.ofArea area c.headerHeight).Covers c record.1 y

/-- A table draws its visible rows on exactly the body lines whose offsets they span. -/
lemma paints_iff {settings : TableSettings} {told : Controller.Contents} {c : Controller}
    {area : Area} {flows : Array Flow} {y : Nat} {record : Nat × Flow}
    (h : Controller.Coherent settings told c) (hextent : c.scrollExtent ≤ 2 ^ 62) :
    Paints area c flows y record ↔
      (area.isEmpty = false ∧ record ∈ c.visibleRecords flows) ∧
        ((TablePlace.ofArea area c.headerHeight).bodyTop ≤ y ∧ y < area.bottom) ∧
          c.Spans record.1 ((TablePlace.ofArea area c.headerHeight).offsetAt c y) := by
  rw [Paints, and_assoc]
  refine and_congr_right fun _ => and_congr_right fun hmem => ?_
  exact covers_iff h hextent (OrderedView.lt_len_of_mem_records hmem)

namespace Buffer

/-- Draws the header of a table alone. -/
def drawHeader (b : Buffer) (area : Area) (palette : Palette) (c : Controller) : Buffer :=
  if area.isEmpty || (TablePlace.ofArea area c.headerHeight).header == 0 then b
  else b.drawLine area.left area.top area.width .plain ((Columns.ofWidth area.width).header palette)

/-- The header is drawn on the first line of a table, if there is one for it. -/
lemma confined_drawHeader (area : Area) (palette : Palette) (c : Controller) :
    Confined (fun y => y < (TablePlace.ofArea area c.headerHeight).bodyTop)
      (·.drawHeader area palette c) := by
  by_cases hnone : (area.isEmpty || (TablePlace.ofArea area c.headerHeight).header == 0) = true
  · simp only [drawHeader, hnone, if_true]
    exact confined_id
  · simp only [drawHeader, hnone]
    refine (confined_drawLine ..).mono ?_
    rintro y rfl
    simp only [Bool.or_eq_true, beq_iff_eq, not_or] at hnone
    exact Nat.lt_add_of_pos_right (Nat.pos_of_ne_zero hnone.2)

/-- A table is drawn row by row, and its header after them. -/
lemma drawTable_eq {area : Area} (harea : area.isEmpty = false) (b : Buffer) (palette : Palette)
    (c : Controller) (flows : Array Flow) :
    b.drawTable area palette c flows =
      ((c.visibleRecords flows).foldl (fun b record =>
        b.drawRow (.ofArea area c.headerHeight) (.ofWidth area.width) palette c record.1 record.2)
          b).drawHeader area palette c := by
  simp only [drawTable, drawHeader, harea, Bool.false_or, beq_iff_eq]
  rfl

variable {settings : TableSettings} {told : Controller.Contents} {c : Controller} {area : Area}
  {flows : Array Flow} {y : Nat}

/-- A line that no row is painted on shows the header, or what was there before. -/
lemma agreeOn_drawTable_of_forall_not (hnone : ∀ record, ¬ Paints area c flows y record)
    (b : Buffer) (palette : Palette) :
    AgreeOn y (b.drawTable area palette c flows) (b.drawHeader area palette c) := by
  cases harea : area.isEmpty with
  | true =>
    simp only [drawTable, drawHeader, harea, Bool.true_or, if_true]
    exact .refl y b
  | false =>
    rw [drawTable_eq harea]
    refine (confined_drawHeader area palette c).congr ?_
    refine agreeOn_foldl_of_forall_not (fun record => confined_drawRow ..) ?_ b
    exact fun record hmem hcovers => hnone record ⟨harea, hmem, hcovers⟩

/-- No two records are painted on one line. -/
lemma eq_of_paints (h : Controller.Coherent settings told c) (hextent : c.scrollExtent ≤ 2 ^ 62)
    {record record' : Nat × Flow} (hpaints : Paints area c flows y record)
    (hpaints' : Paints area c flows y record') : record.1 = record'.1 := by
  obtain ⟨⟨-, hmem⟩, -, hspans⟩ := (paints_iff h hextent).mp hpaints
  obtain ⟨⟨-, hmem'⟩, -, hspans'⟩ := (paints_iff h hextent).mp hpaints'
  exact h.eq_of_spans (OrderedView.lt_len_of_mem_records hmem)
    (OrderedView.lt_len_of_mem_records hmem') hspans hspans'

/-- A line that a row is painted on shows this row as if there were no other. -/
lemma agreeOn_drawTable_of_paints (h : Controller.Coherent settings told c)
    (hextent : c.scrollExtent ≤ 2 ^ 62) {record : Nat × Flow}
    (hpaints : Paints area c flows y record) (b : Buffer) (palette : Palette) :
    AgreeOn y (b.drawTable area palette c flows)
      (b.drawRow (.ofArea area c.headerHeight) (.ofWidth area.width) palette c record.1
        record.2) := by
  obtain ⟨-, ⟨hbody, -⟩, -⟩ := (paints_iff h hextent).mp hpaints
  obtain ⟨harea, hmem, hcovers⟩ := hpaints
  have hapart : (c.visibleRecords flows).Pairwise fun record record' =>
      ¬ ((TablePlace.ofArea area c.headerHeight).Covers c record.1 y ∧
        (TablePlace.ofArea area c.headerHeight).Covers c record'.1 y) := by
    refine OrderedView.pairwise_records.imp_of_mem ?_
    rintro first second hfirst hsecond hne ⟨hcovers, hcovers'⟩
    exact hne (eq_of_paints h hextent ⟨harea, hfirst, hcovers⟩ ⟨harea, hsecond, hcovers'⟩)
  rw [drawTable_eq harea]
  refine ((confined_drawHeader area palette c).frame _ y (Nat.not_lt.mpr hbody)).trans ?_
  exact agreeOn_foldl_of_mem (fun record : Nat × Flow => confined_drawRow _ _ _ _ record.1 record.2)
    hapart hmem hcovers b

end Buffer

end Screen

/-! ## Clicking -/

namespace App

variable {settings : TableSettings} {told : Controller.Contents} {a : App} {column y : Nat}

/-- Where the table stands on the screen, and the lines of it that the header takes. -/
def tablePlace (a : App) : Screen.TablePlace := .ofArea a.tableArea a.controller.headerHeight

/-- No row is shown outside of the table and on its header. -/
lemma rowAt?_eq_none
    (h : a.tableArea.contains column y = false ∨ y < a.tablePlace.bodyTop) :
    a.rowAt? column y = none := by
  unfold rowAt?
  split
  · rename_i hcell
    have hline : y < a.tablePlace.bodyTop := h.resolve_left (by simp [hcell])
    obtain ⟨-, hfirst, -⟩ := Screen.Area.contains_iff.mp hcell
    have hheader : a.tablePlace.header ≤ a.controller.headerHeight :=
      (Nat.min_le_left ..).trans (Nat.min_le_left ..)
    have hbody : a.tablePlace.bodyTop = a.tableArea.top + a.tablePlace.header := rfl
    rw [if_neg (by omega)]
  · rfl

/-- The row shown on a body line is the one found at its offset. -/
lemma rowAt?_eq (h : Controller.Coherent settings told a.controller)
    (hcell : a.tableArea.contains column y = true) (hbody : a.tablePlace.bodyTop ≤ y) :
    a.rowAt? column y =
      a.controller.indexAtOffset (a.tablePlace.offsetAt a.controller y).toNat := by
  obtain ⟨hnonneg, -⟩ := h.viewportTop_range
  obtain ⟨-, -, hlast⟩ := Screen.Area.contains_iff.mp hcell
  -- the area ends below the line, so that the header is not cut off
  have hheader : a.tablePlace.bodyTop = a.tableArea.top + a.controller.headerHeight := by
    unfold tablePlace Screen.TablePlace.bodyTop Screen.TablePlace.ofArea at hbody ⊢
    unfold Screen.Area.bottom Screen.Area.limit at hlast
    simp only [Screen.Area.limit] at hbody ⊢
    omega
  obtain ⟨top, htop⟩ := Int.eq_ofNat_of_zero_le hnonneg
  rw [rowAt?, if_pos hcell, if_pos (by omega), Screen.TablePlace.offsetAt, hheader, htop]
  dsimp only
  congr 1
  omega

/-- A click where no row is shown changes nothing. -/
lemma click_of_rowAt?_eq_none (h : a.rowAt? column y = none) :
    (a.handleMouse ⟨.leftPress, column, y⟩).value = a := by
  simp only [handleMouse, click, h, Option.bind_none]
  rfl

/-- A click where a row is shown selects its flow. -/
lemma click_of_rowAt?_eq_some {i : Nat} {id : FlowId} (h : a.rowAt? column y = some i)
    (hid : a.controller.view.idAt i = some id) :
    (a.handleMouse ⟨.leftPress, column, y⟩).value = { a with
      controller := a.controller.step (.setSelection (a.controller.selection.select [id])) } := by
  simp only [handleMouse, click, h, Option.bind_some, hid]
  rfl

/-- A click on a line that a row is painted on selects the flow of this row. -/
lemma click_of_paints (h : Controller.Coherent settings told a.controller)
    (hextent : a.controller.scrollExtent ≤ 2 ^ 62) {flows : Array Flow} {record : Nat × Flow}
    (hpaints : Screen.Paints a.tableArea a.controller flows y record)
    (hleft : a.tableArea.left ≤ column) (hright : column < a.tableArea.right) :
    ∃ id, a.controller.view.idAt record.1 = some id ∧
      (a.handleMouse ⟨.leftPress, column, y⟩).value = { a with
        controller := a.controller.step (.setSelection (a.controller.selection.select [id])) } ∧
      (a.handleMouse ⟨.leftPress, column, y⟩).value.controller.selection.selected = [id] := by
  obtain ⟨⟨-, hmem⟩, ⟨hbody, hlast⟩, hspans⟩ := (Screen.paints_iff h hextent).mp hpaints
  have hi := OrderedView.lt_len_of_mem_records hmem
  have hcell : a.tableArea.contains column y = true :=
    Screen.Area.contains_iff.mpr ⟨⟨hleft, hright⟩, (Nat.le_add_right ..).trans hbody, hlast⟩
  have hnonneg : 0 ≤ a.tablePlace.offsetAt a.controller y :=
    (Int.natCast_nonneg _).trans hspans.1
  have hrow : a.rowAt? column y = some record.1 := by
    rw [rowAt?_eq h hcell hbody]
    exact (h.indexAtOffset_toNat_iff hnonneg).mpr ⟨hi, hspans⟩
  have hid : a.controller.view.idAt record.1 = some a.controller.view.ids[record.1] :=
    Array.getElem?_eq_getElem hi
  have hclicked := click_of_rowAt?_eq_some hrow hid
  refine ⟨_, hid, hclicked, ?_⟩
  rw [hclicked, Controller.step_selection, Selection.select_singleton]

/-- A click outside of the table, on its header or below its last row changes nothing. -/
lemma click_of_missed (h : Controller.Coherent settings told a.controller)
    (hmissed : a.tableArea.contains column y = false ∨ y < a.tablePlace.bodyTop ∨
      (a.controller.contentHeight : Int) ≤ a.tablePlace.offsetAt a.controller y) :
    (a.handleMouse ⟨.leftPress, column, y⟩).value = a := by
  apply click_of_rowAt?_eq_none
  by_cases hshown : a.tableArea.contains column y = false ∨ y < a.tablePlace.bodyTop
  · exact rowAt?_eq_none hshown
  · obtain ⟨hcell, hbody⟩ := not_or.mp hshown
    have hbelow := (hmissed.resolve_left hcell).resolve_left hbody
    rw [rowAt?_eq h (by simpa using hcell) (Nat.not_lt.mp hbody)]
    apply h.indexAtOffset_eq_none_iff.mpr
    exact (Int.le_toNat ((Int.natCast_nonneg _).trans hbelow)).mpr hbelow

/-- **Painting and clicking.**  Where an application has a table that has come about by any sequence
of calls, whose scroll extent is not higher than `2 ^ 62`, the table paints a visible row on exactly
the body lines whose offsets the row spans, whatever its area is.  No other row is painted there,
the line shows the row as if there were no other, and a click on it selects exactly the flow of this
row.  A line that no row is painted on shows the header alone.  A click outside of the area, on the
header or below the last row changes nothing. -/
theorem painted_row_is_clicked_row (settings : TableSettings) (calls : List Controller.Call)
    (a : App) (flows : Array Flow) (palette : Screen.Palette) (b : Screen.Buffer)
    (htable : a.controller = (Controller.ofSettings settings).run calls)
    (hextent : a.controller.scrollExtent ≤ 2 ^ 62) :
    let c := a.controller
    let area := a.tableArea
    let place := a.tablePlace
    let drawn := b.drawTable area palette c flows
    let clicked := fun column y => (a.handleMouse ⟨.leftPress, column, y⟩).value
    (∀ y record, Screen.Paints area c flows y record ↔
      (area.isEmpty = false ∧ record ∈ c.visibleRecords flows) ∧
        (place.bodyTop ≤ y ∧ y < area.bottom) ∧ c.Spans record.1 (place.offsetAt c y)) ∧
    (∀ y record, Screen.Paints area c flows y record →
      (∀ other, Screen.Paints area c flows y other → other.1 = record.1) ∧
      drawn.AgreeOn y
        (b.drawRow place (.ofWidth area.width) palette c record.1 record.2) ∧
      ∀ column, area.left ≤ column → column < area.right → ∃ id,
        c.view.idAt record.1 = some id ∧
        clicked column y =
          { a with controller := c.step (.setSelection (c.selection.select [id])) } ∧
        (clicked column y).controller.selection.selected = [id]) ∧
    (∀ y, (∀ record, ¬ Screen.Paints area c flows y record) →
      drawn.AgreeOn y (b.drawHeader area palette c)) ∧
    ∀ column y, area.contains column y = false ∨ y < place.bodyTop ∨
      (c.contentHeight : Int) ≤ place.offsetAt c y → clicked column y = a := by
  intro c area place drawn clicked
  have h : Controller.Coherent settings (.ofCalls calls) a.controller := by
    rw [htable]
    exact Controller.coherent_run settings calls
  refine ⟨fun y record => Screen.paints_iff h hextent, fun y record hpaints => ?_,
    fun y hnone => Screen.Buffer.agreeOn_drawTable_of_forall_not hnone b palette,
    fun column y hmissed => click_of_missed h hmissed⟩
  refine ⟨fun other hother => Screen.Buffer.eq_of_paints h hextent hother hpaints,
    Screen.Buffer.agreeOn_drawTable_of_paints h hextent hpaints b palette, ?_⟩
  exact fun column hleft hright => click_of_paints h hextent hpaints hleft hright

/-- Rows of different heights below a header that hides the first line of the second row: its other
line is the first body line, where the row is painted and clicked. -/
theorem painted_row_is_clicked_row_below_header :
    let settings : TableSettings := ⟨⟨2, by decide⟩, 1, 1, 0⟩
    let flows := Controller.Contents.connections 9
    let calls : List Controller.Call :=
      [.resize 6, .dataChanged flows, .setHeightOverrides #[3, 0, 4], .scroll 4]
    let start := ofOptions (.synthetic (.start 0 none)) ⟨settings, 250, .monochrome⟩ 80 8
    let a := { start with controller := (Controller.ofSettings settings).run calls }
    let second : Flow := ⟨.sequential "tcp" 1, .tcp, .midnight ⟨2025, 1, 1⟩, none, none, none⟩
    a.controller = (Controller.ofSettings settings).run calls ∧
      a.controller.scrollExtent ≤ 2 ^ 62 ∧
      Screen.Paints a.tableArea a.controller flows 2 (1, second) ∧
      (∀ other, Screen.Paints a.tableArea a.controller flows 2 other → other.1 = 1) ∧
      (a.handleMouse ⟨.leftPress, 5, 2⟩).value.controller.selection.selected = [second.id] ∧
      (a.handleMouse ⟨.leftPress, 5, 1⟩).value = a := by
  intro settings flows calls start a second
  have htable : a.controller = (Controller.ofSettings settings).run calls := by simp only [a]
  have hextent : a.controller.scrollExtent ≤ 2 ^ 62 := by decide +kernel
  have hpaints : Screen.Paints a.tableArea a.controller flows 2 (1, second) :=
    ⟨by decide +kernel, by decide +kernel, by decide +kernel, by decide +kernel⟩
  have hheader : 1 < a.tablePlace.bodyTop := by decide +kernel
  have hsecond : a.controller.view.idAt 1 = some second.id := by decide +kernel
  have hleft : a.tableArea.left ≤ 5 := by decide +kernel
  have hright : 5 < a.tableArea.right := by decide +kernel
  -- from here on the application is any that has these properties
  clear_value a
  obtain ⟨-, hpainted, -, hmissed⟩ :=
    painted_row_is_clicked_row settings calls a flows .monochrome (.blank 80 8) htable hextent
  obtain ⟨hother, -, hclicked⟩ := hpainted 2 (1, second) hpaints
  obtain ⟨id, hid, -, hselected⟩ := hclicked 5 hleft hright
  obtain rfl : id = second.id := Option.some.inj (hid.symm.trans hsecond)
  exact ⟨htable, hextent, hpaints, hother, hselected, hmissed 5 1 (.inr (.inl hheader))⟩

end App

end FlowWatch
