import Mathlib
import FlowWatch.App

/-!
# Drawing a frame again

A frame is sent to the display as its differences from the frame before.  Sending it a second time
finds no differences, and where it sends a cell again because a wide cluster may have damaged it, the
first sending has sent that cell as well (`Screen.Buffer.send_send`).

So an application that has just drawn can draw again without any effect (`App.Painted`): it is laid
out for its display, no scroll request is queued, and the frame it remembers is the one it would
render.
-/

namespace FlowWatch

namespace Screen

namespace Buffer

variable {next previous display : Array Cell} {i touched covered : Nat}

/-- Sending cells keeps the size of the display. -/
lemma size_sendFrom (next previous : Array Cell) (i touched covered : Nat) (display : Array Cell) :
    (sendFrom next previous i touched covered display).size = display.size := by
  fun_induction sendFrom next previous i touched covered display with
  | case1 i touched covered display h cell old sent ih =>
    rw [ih]
    simp only [sent]
    split
    · exact Array.size_setIfInBounds
    · rfl
  | case2 => rfl

/-- Cells before the first one sent stay as they are. -/
lemma getElem?_sendFrom_of_lt (next previous : Array Cell) (i touched covered : Nat)
    (display : Array Cell) {j : Nat} (hj : j < i) :
    (sendFrom next previous i touched covered display)[j]? = display[j]? := by
  fun_induction sendFrom next previous i touched covered display with
  | case1 i touched covered display h cell old sent ih =>
    rw [ih (Nat.lt_succ_of_lt hj)]
    simp only [sent]
    split
    · exact Array.getElem?_setIfInBounds_ne hj.ne'
    · rfl
  | case2 => rfl

/-- Writing a cell that is there already changes nothing. -/
lemma setIfInBounds_eq_self {cell : Cell} (h : i < display.size → display[i]? = some cell) :
    display.setIfInBounds i cell = display := by
  refine Array.ext_getElem? fun j => ?_
  rw [Array.getElem?_setIfInBounds]
  split
  · rename_i hij
    subst hij
    split
    · rw [h ‹_›]
    · rw [Array.getElem?_eq_none (Nat.le_of_not_lt ‹_›)]
  · rfl

/-- A frame that has been sent can be sent again without effect: where a cell is sent because it may
have been damaged, it has been sent before. -/
lemma sendFrom_sendFrom (next previous : Array Cell) (i touched covered : Nat)
    (display : Array Cell) : ∀ again ≤ touched,
    sendFrom next next i again covered (sendFrom next previous i touched covered display) =
      sendFrom next previous i touched covered display := by
  fun_induction sendFrom next previous i touched covered display with
  | case1 i touched covered display h cell old sent ih =>
    intro again hagain
    have hcell : next[i]?.getD .blank = cell := by
      rw [Array.getElem?_eq_getElem h, Option.getD_some]
    have hrest := ih (max (max cell.width cell.width) again - 1) (by omega)
    set shown := sendFrom next previous (i + 1) (max (max cell.width old.width) touched - 1)
      (cell.width - 1) sent with hshown
    have hkept (hsend : 0 < again ∧ covered = 0) : shown.setIfInBounds i cell = shown := by
      have hsent : sent = display.setIfInBounds i cell :=
        dif_pos (by simp [hsend.1.trans_le hagain, hsend.2])
      refine setIfInBounds_eq_self fun hi => ?_
      rw [hshown, size_sendFrom, hsent, Array.size_setIfInBounds] at hi
      rw [hshown, getElem?_sendFrom_of_lt _ _ _ _ _ _ (Nat.lt_succ_self i), hsent,
        Array.getElem?_setIfInBounds_self_of_lt hi]
    rw [sendFrom, dif_pos h, hcell]
    dsimp only
    split
    · rename_i hsend
      rw [hkept (by simpa [cell] using hsend)]
      exact hrest
    · exact hrest
  | case2 i touched covered display h =>
    intro again _
    rw [sendFrom, dif_neg h]

/-- So can a whole frame. -/
lemma send_send (display next previous : Buffer) :
    (display.send next previous).send next next = display.send next previous :=
  congrArg (fun cells => { display with cells })
    (sendFrom_sendFrom next.cells previous.cells 0 0 0 display.cells 0 le_rfl)

end Buffer

/-- Drawing a frame sends it to the display, or to a cleared one if the size has changed. -/
lemma Canvas.exists_draw_eq (c : Canvas) (display : Buffer) (render : Nat → Nat → Buffer) :
    ∃ (before previous : Buffer), before.width = display.width ∧ before.height = display.height ∧
      c.draw display render =
        (⟨display.width, display.height, render display.width display.height⟩,
          before.send (render display.width display.height) previous) := by
  obtain ⟨width, height, shown⟩ := c
  by_cases hsame : width = display.width ∧ height = display.height
  · obtain ⟨rfl, rfl⟩ := hsame
    refine ⟨display, shown, rfl, rfl, ?_⟩
    rw [draw]
    simp
  · refine ⟨.blank display.width display.height, .blank display.width display.height, rfl, rfl, ?_⟩
    have hcleared :
        (decide (width = display.width) && decide (height = display.height)) = false := by
      simpa using hsame
    rw [draw]
    simp only [hcleared]
    rfl

/-- Drawing the last frame again leaves the canvas and the display as they are. -/
lemma Canvas.draw_eq_of_shown {c : Canvas} {display : Buffer} {render : Nat → Nat → Buffer}
    (hwidth : c.width = display.width) (hheight : c.height = display.height)
    (hshown : c.shown = render display.width display.height)
    (hsend : display.send c.shown c.shown = display) : c.draw display render = (c, display) := by
  obtain ⟨width, height, shown⟩ := c
  subst hwidth hheight hshown
  rw [draw]
  simp [hsend]

end Screen

namespace App

variable {a : App} {display : Screen.Buffer}

/-- The display shows what the application would draw on it now. -/
structure Painted (a : App) (display : Screen.Buffer) : Prop where
  /-- The table has been laid out for the display. -/
  tableArea_eq : a.tableArea = tableAreaOf display.width display.height
  /-- No scroll request is queued. -/
  pendingScroll_eq : a.controller.pendingScroll = none
  /-- The last frame was drawn for a display of this width. -/
  width_eq : a.canvas.width = display.width
  /-- The last frame was drawn for a display of this height. -/
  height_eq : a.canvas.height = display.height
  /-- The last frame is the one that would be drawn now. -/
  shown_eq : a.canvas.shown = a.scene.render display.width display.height
  /-- Sending the last frame again changes nothing. -/
  send_eq : display.send a.canvas.shown a.canvas.shown = display

/-- An application that is laid out for a display, and whose scroll request has been taken, is ready
to draw. -/
lemma value_prepare_of_laidOut {width height : Nat}
    (harea : a.tableArea = tableAreaOf width height) (hscroll : a.controller.pendingScroll = none) :
    (a.prepare width height).value = a := by
  have hcontroller : { a.controller with pendingScroll := none } = a.controller := by
    rw [← hscroll]
  have hvalue : (a.prepare width height).value =
      { a with controller := { a.controller with pendingScroll := none } } := by
    rw [prepare, if_pos harea]
    rfl
  rw [hvalue, hcontroller]

/-- Getting ready lays the table out and takes the scroll request. -/
lemma prepare_ready (a : App) (width height : Nat) :
    (a.prepare width height).value.tableArea = tableAreaOf width height ∧
      (a.prepare width height).value.controller.pendingScroll = none := by
  by_cases harea : a.tableArea = tableAreaOf width height
  · rw [prepare, if_pos harea]
    exact ⟨harea, rfl⟩
  · rw [prepare, if_neg harea]
    exact ⟨rfl, rfl⟩

/-- After a frame has been drawn the display shows it. -/
lemma painted_paint (harea : a.tableArea = tableAreaOf display.width display.height)
    (hscroll : a.controller.pendingScroll = none) :
    Painted (a.paint display).1 (a.paint display).2 := by
  obtain ⟨before, previous, hwidth, hheight, hdraw⟩ :=
    a.canvas.exists_draw_eq display a.scene.render
  rw [paint, hdraw]
  exact
    { tableArea_eq := by rw [← hwidth, ← hheight] at harea; exact harea
      pendingScroll_eq := hscroll
      width_eq := hwidth.symm
      height_eq := hheight.symm
      shown_eq := by rw [← hwidth, ← hheight]; rfl
      send_eq := before.send_send _ _ }

/-- However an application is drawn, the display shows it afterwards. -/
lemma painted_draw (a : App) (display : Screen.Buffer) :
    Painted (a.draw display).value.1 (a.draw display).value.2 := by
  obtain ⟨harea, hscroll⟩ := a.prepare_ready display.width display.height
  exact painted_paint harea hscroll

/-- Drawing again has no effect. -/
lemma Painted.draw_eq (h : Painted a display) : (a.draw display).value = (a, display) := by
  have hvalue : (a.draw display).value =
      (a.prepare display.width display.height).value.paint display := rfl
  rw [hvalue, value_prepare_of_laidOut h.tableArea_eq h.pendingScroll_eq, paint,
    Screen.Canvas.draw_eq_of_shown h.width_eq h.height_eq h.shown_eq h.send_eq]

end App

end FlowWatch
