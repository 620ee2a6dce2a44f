import Mathlib
import FlowWatch.Screen.Columns
import FlowWatch.Proofs.Numerals
import FlowWatch.Proofs.TextWidth

/-!
# Texts that fill their columns

A text is cut or padded to fill a column.  The padding trusts the columns that are counted for what
is kept of the text, and a text that is cut is counted character by character, while it is measured
as a whole to see whether it has to be cut.  The two agree on plain characters, but not on controls,
which take a cell in a text and are counted for nothing, nor on pictures of several characters.  So
a cell has the width of its column exactly if the text need not be cut or is counted up to the cut
as it is measured (`CutsEvenly`).

Everything that the table writes of itself is plain, and so are numbers and times.  What a flow
names as its server and asks for may be anything, and so these two texts decide whether a row lines
up with the header.
-/

namespace FlowWatch.Screen

/-! ## Counting one by one -/

/-- The columns of a text whose characters are counted one by one. -/
def sumCells (text : List Char) : Nat := (text.map charCells).sum

/-- The longest start of a text whose characters, counted one by one, take at most `room`
columns. -/
structure IsLongestStart (text : List Char) (room : Nat) (kept : List Char) : Prop where
  /-- The text starts with what is kept. -/
  start : kept <+: text
  /-- What is kept is counted for at most `room` columns. -/
  fits : sumCells kept ≤ room
  /-- Every other start that is counted for no more is a start of what is kept. -/
  longest : ∀ other, other <+: text → sumCells other ≤ room → other <+: kept

/-- What is kept of a text is counted one by one. -/
lemma takeCells_snd (room : Nat) (text : List Char) :
    (takeCells room text).2 = sumCells (takeCells room text).1 := by
  induction text generalizing room with
  | nil => rfl
  | cons c cs ih =>
    unfold takeCells
    simp only
    split
    · simp only [ih, sumCells, List.map_cons, List.sum_cons]
    · rfl

/-- The start that is kept is the longest one. -/
lemma isLongestStart_takeCells (text : List Char) (room : Nat) :
    IsLongestStart text room (takeCells room text).1 where
  start := by
    induction text generalizing room with
    | nil => exact List.prefix_refl []
    | cons c cs ih =>
      unfold takeCells
      simp only
      split
      · exact List.cons_prefix_cons.mpr ⟨rfl, ih _⟩
      · exact List.nil_prefix
  fits := by
    rw [← takeCells_snd]
    exact takeCells_le room text
  longest := by
    induction text generalizing room with
    | nil =>
      intro other hstart _
      rw [List.prefix_nil.mp hstart]
      exact List.nil_prefix
    | cons c cs ih =>
      intro other hstart hfits
      rcases List.prefix_cons_iff.mp hstart with rfl | ⟨rest, rfl, hrest⟩
      · exact List.nil_prefix
      · simp only [sumCells, List.map_cons, List.sum_cons] at hfits
        unfold takeCells
        rw [if_pos (by omega)]
        refine List.cons_prefix_cons.mpr ⟨rfl, ih _ rest hrest ?_⟩
        rw [sumCells]
        omega

/-- There is one longest start. -/
lemma IsLongestStart.eq_takeCells {text kept : List Char} {room : Nat}
    (h : IsLongestStart text room kept) : kept = (takeCells room text).1 := by
  have htaken := isLongestStart_takeCells text room
  have hle := htaken.longest kept h.start h.fits
  have hge := h.longest _ htaken.start htaken.fits
  exact hle.eq_of_length (le_antisymm hle.length_le hge.length_le)

/-! ## The width of a fitted text -/

/-- If the text has to be cut, it is counted up to the cut as it is measured. -/
def CutsEvenly (text : List Char) (width : Nat) : Prop :=
  ∀ kept, IsLongestStart text (width - 1) kept → 0 < width → width < Text.width text →
    Text.width kept = sumCells kept

/-- A text is counted for what it takes exactly if it is cut evenly. -/
lemma width_truncate_iff (text : List Char) (width : Nat) :
    Text.width (truncate text width).1 = (truncate text width).2 ↔ CutsEvenly text width := by
  unfold truncate
  split
  · rename_i hfits
    exact iff_of_true rfl fun kept hkept hpos hcut => absurd hfits (Nat.not_le.mpr hcut)
  split
  · rename_i hzero
    exact iff_of_true rfl fun kept hkept hpos => absurd hzero hpos.ne'
  · rename_i hcut hzero
    have hellipsis : ∀ c ∈ ['…'], Text.IsPlain c :=
      List.forall_mem_singleton.mpr Text.isPlain_ellipsis
    have hone : Text.width ['…'] = 1 := by decide +kernel
    simp only
    rw [Text.width_append (by rw [Text.widthFrom_of_plain hellipsis]), hone, takeCells_snd,
      Nat.add_right_cancel_iff]
    constructor
    · intro heven kept hkept hpos hlong
      rw [hkept.eq_takeCells]
      exact heven
    · intro heven
      exact heven _ (isLongestStart_takeCells _ _) (Nat.pos_of_ne_zero hzero) (Nat.not_le.mp hcut)

/-- A text that is padded at its end is as far from the width of the column as its width is from
what it is counted for. -/
lemma width_fitLeft_add (text : String) (width : Nat) :
    Text.width (fitLeft text width).toList + (truncate text.toList width).2 =
      width + Text.width (truncate text.toList width).1 := by
  have hle := truncate_le text.toList width
  simp only [fitLeft, String.toList_ofList, Text.width_append_spaces]
  omega

/-- So is a text that is padded at its start. -/
lemma width_fitRight_add (text : String) (width : Nat) :
    Text.width (fitRight text width).toList + (truncate text.toList width).2 =
      width + Text.width (truncate text.toList width).1 := by
  have hle := truncate_le text.toList width
  simp only [fitRight, String.toList_ofList, Text.width_spaces_append]
  omega

lemma width_fitLeft_iff (text : String) (width : Nat) :
    Text.width (fitLeft text width).toList = width ↔ CutsEvenly text.toList width := by
  have hsum := width_fitLeft_add text width
  rw [← width_truncate_iff]
  omega

lemma width_fitRight_iff (text : String) (width : Nat) :
    Text.width (fitRight text width).toList = width ↔ CutsEvenly text.toList width := by
  have hsum := width_fitRight_add text width
  rw [← width_truncate_iff]
  omega

/-! ## Plain texts -/

/-- All characters of the text are plain. -/
def PlainText (text : String) : Prop := ∀ c ∈ text.toList, Text.IsPlain c

/-- A plain text is cut evenly. -/
lemma PlainText.cutsEvenly {text : String} (h : PlainText text) (width : Nat) :
    CutsEvenly text.toList width := by
  intro kept hkept _ _
  have hplain : ∀ c ∈ kept, Text.IsPlain c := fun c hc => h c (hkept.start.subset hc)
  rw [Text.width, Text.widthFrom_of_plain hplain]
  rfl

/-- Digits are plain. -/
lemma isPlain_of_isDigit {c : Char} (h : c.isDigit = true) : Text.IsPlain c := by
  apply Text.isPlain_of_printable
  rw [Char.isDigit_iff_toNat] at h
  exact ⟨h.1.trans' (by decide), h.2.trans (by decide)⟩

/-- A number is a plain text. -/
lemma plainText_number (n : Nat) : PlainText (toString n) := by
  intro c hc
  rw [Nat.toString_eq_ofList_toDigits, String.toList_ofList] at hc
  exact isPlain_of_isDigit (Nat.isDigit_of_mem_toDigits (by decide) (by decide) hc)

/-- A time of day is a plain text. -/
lemma plainText_clockText (s : Stamp) : PlainText s.clockText := by
  have hdigits : ∀ n width, ∀ c ∈ Stamp.padded n width, Text.IsPlain c := fun n width c hc =>
    isPlain_of_isDigit (Stamp.isDigit_of_mem_padded hc)
  have hmark : Text.IsPlain ':' := Text.isPlain_of_printable (by decide)
  have hpoint : Text.IsPlain '.' := Text.isPlain_of_printable (by decide)
  intro c hc
  simp only [Stamp.clockText, Stamp.renderClock, String.toList_ofList, List.mem_append,
    List.mem_cons] at hc
  rcases hc with (hc | rfl | hc | rfl | hc) | rfl | hc
  · exact hdigits _ _ c hc
  · exact hmark
  · exact hdigits _ _ c hc
  · exact hmark
  · exact hdigits _ _ c hc
  · exact hpoint
  · exact hdigits _ _ c hc

/-- A text of printable characters is a plain text. -/
lemma plainText_of_printable {text : String}
    (h : (text.toList.all fun c => Text.IsPrintable c) = true) : PlainText text :=
  fun c hc => Text.isPlain_of_printable (of_decide_eq_true (List.all_eq_true.mp h c hc))

/-- The label of a kind is a plain text. -/
lemma plainText_label (kind : Kind) : PlainText kind.label := by
  apply plainText_of_printable
  cases kind <;> decide

/-! ## Lines of cells -/

/-- The columns that a piece of a line takes. -/
def Span.width (s : Span) : Nat := Text.width s.text.toList

namespace Columns

/-- The widths of a line in which every cell fills its column, with the spaces between them. -/
def lineWidths (c : Columns) : List Nat := (c.widths.filter (· ≠ 0)).intersperse 1

end Columns

/-- Pieces between separators can be measured before they are joined. -/
lemma map_intersperse {α β : Type} (f : α → β) (separator : α) (pieces : List α) :
    (pieces.intersperse separator).map f = (pieces.map f).intersperse (f separator) := by
  induction pieces with
  | nil => rfl
  | cons piece pieces ih =>
    cases pieces with
    | nil => rfl
    | cons next pieces =>
      simp only [List.intersperse_cons_cons, List.map_cons] at ih ⊢
      rw [ih]

/-- Pieces can be told apart between separators. -/
lemma intersperse_injective {α : Type} (separator : α) :
    Function.Injective (List.intersperse separator) := by
  intro pieces others h
  apply List.ext_getElem?
  intro i
  have hplace := congrArg (fun joined : List α => joined[2 * i]?) h
  simpa only [List.getElem?_intersperse_two_mul] using hplace

/-- A line has the widths of its columns exactly if every cell that is shown fills its column. -/
lemma line_widths_iff (c : Columns) {cells : List Span} (hcells : cells.length = c.widths.length) :
    (c.line cells).map Span.width = c.lineWidths ↔
      ∀ cell ∈ cells.zip c.widths, cell.2 ≠ 0 → cell.1.width = cell.2 := by
  have hseparator : (Span.bare " ").width = 1 := by decide +kernel
  have hwidths : (cells.zip c.widths).map Prod.snd = c.widths := List.map_snd_zip hcells.ge
  have hshown : c.widths.filter (· ≠ 0) =
      ((cells.zip c.widths).filter fun cell => cell.2 ≠ 0).map Prod.snd := by
    nth_rewrite 1 [← hwidths]
    rw [List.filter_map]
    rfl
  rw [Columns.line, Columns.lineWidths, map_intersperse, hseparator, List.map_map, hshown,
    (intersperse_injective 1).eq_iff, List.map_inj_left]
  simp only [List.mem_filter, decide_eq_true_eq, Function.comp_apply, and_imp]

/-- A plain text fills its column, whatever side it is padded on. -/
lemma PlainText.width_fit {text : String} (h : PlainText text) (width : Nat) (style : Style) :
    (⟨fitLeft text width, style⟩ : Span).width = width ∧
      (⟨fitRight text width, style⟩ : Span).width = width :=
  ⟨(width_fitLeft_iff text width).mpr (h.cutsEvenly width),
    (width_fitRight_iff text width).mpr (h.cutsEvenly width)⟩

/-- The status of a flow fills its column. -/
lemma width_statusSpan (f : Flow) (palette : Palette) (width : Nat) :
    (Columns.statusSpan f palette width).width = width := by
  have hawaited : PlainText "…" := fun c hc => by
    rw [List.mem_singleton.mp hc]
    exact Text.isPlain_ellipsis
  unfold Columns.statusSpan
  split
  · exact ((plainText_number _).width_fit width _).2
  · split
    · exact (hawaited.width_fit width _).2
    · exact ((plainText_of_printable (by decide)).width_fit width _).2

/-- The header fills its columns. -/
lemma header_widths (c : Columns) (palette : Palette) :
    (c.header palette).map Span.width = c.lineWidths := by
  have hfit : ∀ text : String, (text.toList.all fun c => Text.IsPrintable c) = true → ∀ width,
      (⟨fitLeft text width, palette.header⟩ : Span).width = width ∧
        (⟨fitRight text width, palette.header⟩ : Span).width = width :=
    fun text h width => (plainText_of_printable h).width_fit width _
  refine (line_widths_iff c rfl).mpr ?_
  simp only [List.map_cons, List.map_nil, Columns.widths, List.zip_cons_cons, List.zip_nil_right,
    List.forall_mem_cons, List.not_mem_nil, false_implies, implies_true, and_true]
  refine ⟨fun _ => (hfit "#" ?_ _).2, fun _ => (hfit "Time" ?_ _).1, fun _ => (hfit "Kind" ?_ _).1,
    fun _ => (hfit "Server" ?_ _).1, fun _ => (hfit "Request" ?_ _).1,
    fun _ => (hfit "Status" ?_ _).2⟩
  all_goals decide

/-- A row fills its columns exactly if the texts that the flow brings with it are cut evenly. -/
lemma row_widths_iff (c : Columns) (index : Nat) (f : Flow) (palette : Palette) :
    (c.row index f palette).map Span.width = c.lineWidths ↔
      CutsEvenly (Columns.serverText f).toList c.server ∧
        CutsEvenly (Columns.requestText f).toList c.request := by
  -- a column of width zero is not shown, and nothing is cut in it
  have hcell : ∀ text width, (width ≠ 0 → (Span.bare (fitLeft text width)).width = width) ↔
      CutsEvenly text.toList width := by
    intro text width
    rw [← width_fitLeft_iff]
    constructor
    · intro hshown
      rcases width.eq_zero_or_pos with rfl | hpos
      · exact (width_fitLeft_iff text 0).mpr fun kept hkept hpos => absurd hpos (lt_irrefl 0)
      · exact hshown hpos.ne'
    · exact fun hwidth _ => hwidth
  have hindex := ((plainText_number (index + 1)).width_fit c.index .plain).2
  have htime := (plainText_clockText f.timestamp).cutsEvenly c.time
  have hkind := ((plainText_label f.kind).width_fit c.kind (palette.kind f.kind)).1
  have hstatus := width_statusSpan f palette c.status
  refine (line_widths_iff c rfl).trans ?_
  simp only [Columns.widths, List.zip_cons_cons, List.zip_nil_right, List.forall_mem_cons,
    List.not_mem_nil, false_implies, implies_true, and_true, hcell]
  constructor
  · rintro ⟨-, -, -, hserver, hrequest, -⟩
    exact ⟨hserver, hrequest⟩
  · rintro ⟨hserver, hrequest⟩
    exact ⟨fun _ => hindex, htime, fun _ => hkind, hserver, hrequest, fun _ => hstatus⟩

/-! ## What fills its column -/

/-- **Column widths.**  A text is never counted for more columns than it has, and a text that is cut
or padded to a width takes exactly that width if and only if it is cut evenly.  The header takes the
widths of its columns, and the row of a flow lines up with it if and only if the texts in the server
and the request column are cut evenly. -/
theorem cells_fill_columns_iff (text : String) (width : Nat) (c : Columns) (index : Nat) (f : Flow)
    (palette : Palette) :
    ((truncate text.toList width).2 ≤ width ∧
      (Text.width (fitLeft text width).toList = width ↔ CutsEvenly text.toList width) ∧
      (Text.width (fitRight text width).toList = width ↔ CutsEvenly text.toList width)) ∧
    (c.header palette).map Span.width = c.lineWidths ∧
      ((c.row index f palette).map Span.width = (c.header palette).map Span.width ↔
        CutsEvenly (Columns.serverText f).toList c.server ∧
          CutsEvenly (Columns.requestText f).toList c.request) := by
  refine ⟨⟨truncate_le _ _, width_fitLeft_iff text width, width_fitRight_iff text width⟩,
    header_widths c palette, ?_⟩
  rw [header_widths]
  exact row_widths_iff c index f palette

/-- A woman and a microscope that a joiner makes one picture take two columns, but are counted for
four: with the four letters after them they are cut to a cell of five columns, which takes three.
Controls take a column each and are counted for nothing: with two letters after them three of them
are cut to a cell of three columns, which takes six. -/
theorem cells_miss_columns :
    let picture := String.ofList [Char.ofNat 0x1F469, Char.ofNat 0x200D, Char.ofNat 0x1F52C]
    (fitLeft (picture ++ "abcd") 5 = picture ++ "…" ∧
      fitRight (picture ++ "abcd") 5 = picture ++ "…" ∧ Text.width (picture ++ "…").toList = 3) ∧
    (fitLeft "\t\t\tab" 3 = "\t\t\tab…" ∧ fitRight "\t\t\tab" 3 = "\t\t\tab…" ∧
      Text.width "\t\t\tab…".toList = 6) := by
  decide +kernel

end FlowWatch.Screen
