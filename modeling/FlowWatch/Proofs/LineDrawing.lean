import Mathlib
import FlowWatch.Screen.FlowTable

/-!
# Drawing stays on its lines

Drawing a piece of text or restyling a line goes through single changes of cells, each on one line
of a buffer, so what a drawing does is confined to lines (`Buffer.Confined`): it leaves every other
line alone, and what it leaves on a line depends on what stood on that line, and not on the rest of
the buffer.  How many cells it touches may depend on the width of the buffer, which no drawing
changes; two buffers are therefore compared line by line, together with their widths
(`Buffer.AgreeOn`).

Drawings that share no line may be carried out one after the other, and each line then shows the one
drawing that is confined to it as if there were no other (`Buffer.agreeOn_foldl_of_mem`).
-/

namespace FlowWatch.Screen

namespace Buffer

/-! ## Lines of a buffer -/

/-- Cells of a row stand at different places, and so do cells of different rows. -/
lemma place_eq_iff {width x y x' y' : Nat} (hx : x < width) (hx' : x' < width) :
    y * width + x = y' * width + x' ↔ x' = x ∧ y' = y := by
  have hpos := Nat.zero_lt_of_lt hx
  constructor
  · intro heq
    have hplace : (y * width + x) / width = y ∧ (y * width + x) % width = x :=
      (Nat.div_mod_unique hpos).mpr ⟨by rw [Nat.mul_comm, Nat.add_comm], hx⟩
    have hplace' : (y * width + x) / width = y' ∧ (y * width + x) % width = x' :=
      (Nat.div_mod_unique hpos).mpr ⟨by rw [heq, Nat.mul_comm, Nat.add_comm], hx'⟩
    exact ⟨hplace'.2.symm.trans hplace.2, hplace'.1.symm.trans hplace.1⟩
  · rintro ⟨rfl, rfl⟩
    rfl

/-- Changing one cell changes no other. -/
lemma get?_modify (b : Buffer) (x y : Nat) (change : Cell → Cell) (x' y' : Nat) :
    (b.modify x y change).get? x' y' =
      if x' = x ∧ y' = y then (b.get? x' y').map change else b.get? x' y' := by
  unfold modify get?
  by_cases hx : x < b.width
  · by_cases hx' : x' < b.width
    · simp only [hx, hx', if_true, Array.getElem?_modify, place_eq_iff hx hx']
    · simp [hx, hx']
  · by_cases hsame : x' = x ∧ y' = y
    · obtain ⟨rfl, rfl⟩ := hsame
      simp [hx]
    · simp only [hx, hsame, if_false]

/-- Two buffers of one width hold the same cells on the line `y`. -/
def AgreeOn (y : Nat) (b b' : Buffer) : Prop :=
  b.width = b'.width ∧ ∀ x, b.get? x y = b'.get? x y

namespace AgreeOn

variable {y : Nat} {b b' b'' : Buffer}

lemma refl (y : Nat) (b : Buffer) : AgreeOn y b b := ⟨rfl, fun _ => rfl⟩

lemma trans (h : AgreeOn y b b') (h' : AgreeOn y b' b'') : AgreeOn y b b'' :=
  ⟨h.1.trans h'.1, fun x => (h.2 x).trans (h'.2 x)⟩

end AgreeOn

/-! ## Confined drawings -/

/-- A drawing touches only some lines, and what it leaves on a line depends on what stood there. -/
structure Confined (lines : Nat → Prop) (draw : Buffer → Buffer) : Prop where
  frame : ∀ b y, ¬ lines y → AgreeOn y (draw b) b
  congr : ∀ {b b' y}, AgreeOn y b b' → AgreeOn y (draw b) (draw b')

variable {lines lines' : Nat → Prop} {draw draw' : Buffer → Buffer}

/-- To draw nothing is confined to any lines. -/
lemma confined_id : Confined lines id := ⟨fun b y _ => .refl y b, id⟩

/-- Two drawings on the same lines, one after the other. -/
lemma Confined.comp (h : Confined lines draw) (h' : Confined lines draw') :
    Confined lines fun b => draw' (draw b) :=
  ⟨fun b y hy => (h'.frame _ y hy).trans (h.frame b y hy), fun hagree => h'.congr (h.congr hagree)⟩

/-- A drawing is confined also to more lines. -/
lemma Confined.mono (h : Confined lines draw) (hsub : ∀ y, lines y → lines' y) :
    Confined lines' draw :=
  ⟨fun b y hy => h.frame b y fun hline => hy (hsub y hline), h.congr⟩

/-- A drawing may go by the width of the buffer. -/
lemma Confined.ofWidth (draw : Nat → Buffer → Buffer) (h : ∀ width, Confined lines (draw width)) :
    Confined lines fun b => draw b.width b where
  frame b := (h b.width).frame b
  congr {b b' y} hagree := by
    rw [hagree.1]
    exact (h b'.width).congr hagree

/-- A changed cell stands on one line. -/
lemma confined_modify (x y : Nat) (change : Cell → Cell) :
    Confined (· = y) (·.modify x y change) where
  frame b z hz := by
    refine ⟨width_modify .., fun x' => ?_⟩
    rw [get?_modify, if_neg fun hsame => hz hsame.2]
  congr {b b' z} hagree := by
    refine ⟨?_, fun x' => ?_⟩
    · rw [width_modify, width_modify, hagree.1]
    · rw [get?_modify, get?_modify, hagree.2]

/-- Changed cells of a row stand on one line. -/
lemma confined_modifyRun (x y : Nat) (change : Cell → Cell) (count : Nat) :
    Confined (· = y) (·.modifyRun x y change count) := by
  induction count generalizing x with
  | zero => exact confined_id
  | succ count ih => exact (confined_modify x y change).comp (ih (x + 1))

/-- A line is restyled alone. -/
lemma confined_styleLine (x y width : Nat) (style : Style) :
    Confined (· = y) (·.styleLine x y width style) :=
  .ofWidth (fun whole b => b.modifyRun x y (·.styled style) (min width (whole - x)))
    fun _ => confined_modifyRun ..

/-- Clusters are written on one line. -/
lemma confined_writeClusters (x y room : Nat) (style : Style) (clusters : List (List Char)) :
    Confined (· = y) fun b => (b.writeClusters x y room style clusters).1 := by
  induction clusters generalizing x room with
  | nil => exact confined_id
  | cons cluster rest ih =>
    by_cases hfits : Text.width cluster ≤ room
    · simp only [writeClusters, hfits, if_true]
      exact ((confined_modify ..).comp (confined_modifyRun ..)).comp (ih ..)
    · simp only [writeClusters, hfits, if_false]
      exact confined_id

/-- Where written clusters end does not depend on the buffer. -/
lemma snd_writeClusters (b b' : Buffer) (x y room : Nat) (style : Style)
    (clusters : List (List Char)) :
    (b.writeClusters x y room style clusters).2 = (b'.writeClusters x y room style clusters).2 := by
  induction clusters generalizing b b' x room with
  | nil => rfl
  | cons cluster rest ih =>
    simp only [writeClusters]
    split
    · exact ih ..
    · rfl

/-- A text is written on one line. -/
lemma confined_writeText (x y room : Nat) (text : String) (style : Style) :
    Confined (· = y) fun b => (b.writeText x y room text style).1 :=
  .ofWidth (fun whole b => (b.writeClusters x y (min room (whole - x)) style
    ((Text.clusters text.toList).filter isShown)).1) fun _ => confined_writeClusters ..

/-- Pieces of text are drawn on one line. -/
lemma confined_drawLine (x y room : Nat) (base : Style) (spans : List Span) :
    Confined (· = y) (·.drawLine x y room base spans) := by
  induction spans generalizing x room with
  | nil => exact confined_id
  | cons span rest ih =>
    by_cases hroom : room = 0
    · simp only [drawLine, hroom, if_true]
      exact confined_id
    · simp only [drawLine, hroom, if_false]
      constructor
      · intro b z hz
        exact ((ih ..).frame _ z hz).trans ((confined_writeText ..).frame b z hz)
      · intro b b' z hagree
        have hstop : (b.writeText x y room span.text (base.patch span.style)).2 =
            (b'.writeText x y room span.text (base.patch span.style)).2 := by
          rw [writeText, writeText, hagree.1]
          exact snd_writeClusters ..
        rw [hstop]
        exact (ih ..).congr ((confined_writeText ..).congr hagree)

/-- Lines are restyled from the first to before the one after the last. -/
lemma confined_styleLines (area : Area) (y : Nat) (style : Style) (count : Nat) :
    Confined (fun z => y ≤ z ∧ z < y + count) (·.styleLines area y style count) := by
  induction count generalizing y with
  | zero => exact confined_id
  | succ count ih =>
    refine ((confined_styleLine ..).mono ?_).comp ((ih (y + 1)).mono ?_)
    · rintro z rfl
      omega
    · rintro z ⟨hfirst, hlast⟩
      omega

/-- A row is drawn on the body lines that it covers. -/
lemma confined_drawRow (place : TablePlace) (columns : Columns) (palette : Palette)
    (c : Controller) (index : Nat) (f : Flow) :
    Confined (fun y => (place.bodyLines c index).1 ≤ y ∧ y < (place.bodyLines c index).2)
      (·.drawRow place columns palette c index f) := by
  have hstyled : Confined (fun y => (place.bodyLines c index).1 ≤ y ∧
      y < (place.bodyLines c index).2) fun b => b.styleLines place.area (place.bodyLines c index).1
        (rowStyle c palette index f)
        ((place.bodyLines c index).2 - (place.bodyLines c index).1) := by
    refine (confined_styleLines ..).mono ?_
    rintro z ⟨hfirst, hlast⟩
    omega
  unfold drawRow
  split
  rename_i start stop hlines
  rw [hlines] at hstyled ⊢
  by_cases htext : (decide (start < stop) && place.firstLine c index == start) = true
  · simp only [htext, if_true]
    refine hstyled.comp ((confined_drawLine ..).mono ?_)
    rintro z rfl
    simp only [Bool.and_eq_true, decide_eq_true_eq] at htext
    exact ⟨le_rfl, htext.1⟩
  · simp only [htext]
    exact hstyled

/-! ## Drawings one after the other -/

section Drawings

variable {α : Type} {lines : α → Nat → Prop} {draw : α → Buffer → Buffer} {items : List α} {y : Nat}

/-- Drawings that do not touch a line leave it alone together. -/
lemma agreeOn_foldl_of_forall_not (hconfined : ∀ a, Confined (lines a) (draw a))
    (hnone : ∀ a ∈ items, ¬ lines a y) (b : Buffer) :
    AgreeOn y (items.foldl (fun b a => draw a b) b) b := by
  induction items generalizing b with
  | nil => exact .refl y b
  | cons a items ih =>
    obtain ⟨hfirst, hrest⟩ := List.forall_mem_cons.mp hnone
    exact (ih hrest (draw a b)).trans ((hconfined a).frame b y hfirst)

/-- If one drawing only touches a line, the line shows it as if there were no other. -/
lemma agreeOn_foldl_of_mem (hconfined : ∀ a, Confined (lines a) (draw a))
    (hapart : items.Pairwise fun a a' => ¬ (lines a y ∧ lines a' y)) {a : α} (ha : a ∈ items)
    (hline : lines a y) (b : Buffer) :
    AgreeOn y (items.foldl (fun b a => draw a b) b) (draw a b) := by
  induction items generalizing b with
  | nil => cases ha
  | cons first items ih =>
    obtain ⟨hfirst, hrest⟩ := List.pairwise_cons.mp hapart
    rcases List.mem_cons.mp ha with rfl | hmem
    · exact agreeOn_foldl_of_forall_not hconfined
        (fun other hother hboth => hfirst other hother ⟨hline, hboth⟩) (draw a b)
    · have hbefore : AgreeOn y (draw first b) b :=
        (hconfined first).frame b y fun hboth => hfirst a hmem ⟨hboth, hline⟩
      exact (ih hrest hmem (draw first b)).trans ((hconfined a).congr hbefore)

end Drawings

end Buffer

end FlowWatch.Screen
