import Mathlib
import FlowWatch.Text.CellWidth

/-!
# The width of a text

A text is measured from its end, and a character may take cells back that the characters to its
right have been given: the subscript sign before a Khmer letter, the letters of a flag that is
joined to a picture.  The width is nevertheless that of the whole text (`natCast_width`), since
nothing is taken back that has not been given before; `Shape.refundable` says how much a shape lets
the next character take back, and no text leaves a shape that lets it take back more than the text
takes.

What a text adds to its neighbours on the left is told by the context that it leaves.  Texts that
leave nothing behind add up (`width_append`).  In particular plain characters, which take the same
cells in a text as by themselves, can be counted one by one (`widthFrom_of_plain`).
-/

namespace FlowWatch.Text

/-! ## Nothing is taken back that was not given -/

/-- The cells that the next character may take back from a text that leaves the shape. -/
def Shape.refundable : Shape → Nat
  | khmerLetter | tifinaghJoiner | joinedFlag | joinedFlagsOdd => 1
  | _ => 0

lemma refundable_le_one (s : Shape) : s.refundable ≤ 1 := by
  unfold Shape.refundable
  split <;> decide

/-- A joiner in front of a shape does not change what may be taken back. -/
lemma refundable_withJoiner (s : Shape) : s.withJoiner.refundable = s.refundable := by
  cases s <;> rfl

/-- A selector in front of a shape leaves it or takes it away. -/
lemma refundable_withEmojiSelector_le (s : Shape) :
    s.withEmojiSelector.shape.refundable ≤ s.refundable := by
  unfold Shape.withEmojiSelector
  split
  · exact le_rfl
  · exact Nat.zero_le _

lemma refundable_withTextSelector_le (s : Shape) :
    s.withTextSelector.shape.refundable ≤ s.refundable := by
  unfold Shape.withTextSelector
  split
  · exact le_rfl
  · exact Nat.zero_le _

lemma refundable_withoutSelector_le (s : Shape) :
    s.withoutSelector.refundable ≤ s.refundable := by
  unfold Shape.withoutSelector
  split
  · exact le_rfl
  · exact Nat.zero_le _

/-- A character takes a cell at least unless it is widthless. -/
lemma one_le_baseWidth {c : Char} (h : widthless.holds c = false) : 1 ≤ baseWidth c := by
  unfold baseWidth
  simp only [h, Bool.false_eq_true, if_false]
  split_ifs <;> decide

/-- The letters that a sign turns into a subscript are not widthless. -/
lemma widthless_of_isKhmerLetter {c : Char} (h : isKhmerLetter c = true) :
    widthless.holds c = false := by
  have hranges : ∀ range ∈ widthless.toList, 0x17AF < range.1 ∨ range.2 < 0x1780 := by
    decide +kernel
  have hletter : 0x1780 ≤ c.toNat ∧ c.toNat ≤ 0x17AF := by
    simp only [isKhmerLetter, between, Bool.or_eq_true, Bool.and_eq_true, decide_eq_true_eq,
      beq_iff_eq] at h
    omega
  apply CharRanges.holds_eq_false
  intro range hrange
  have hout := hranges range hrange
  omega

/-- Of a single character no more may be taken back than it takes. -/
lemma refundable_ofChar_le (c : Char) : (Shape.ofChar c).refundable ≤ baseWidth c := by
  cases hletter : isKhmerLetter c with
  | true =>
    exact (refundable_le_one _).trans (one_le_baseWidth (widthless_of_isKhmerLetter hletter))
  | false =>
    have hnothing : (Shape.ofChar c).refundable = 0 := by
      simp only [Shape.ofChar, hletter, Bool.false_eq_true, if_false, apply_ite Shape.refundable]
      simp only [Shape.refundable, ite_self]
    rw [hnothing]
    exact Nat.zero_le _

/-- A character that forms one picture with the shape to its right takes back no more than that
lets it. -/
lemma refundable_ligature_le {c : Char} {right : Shape} {cells : Int} {left : RightContext}
    (h : ligature? c right = some (cells, left)) :
    (left.shape.refundable : Int) ≤ right.refundable + cells := by
  unfold ligature? at h
  split at h
  all_goals
    repeat' split at h
    all_goals cases h
    all_goals simp [Shape.refundable, Shape.context, RightContext.start]

/-- One character before a text takes back no more than the text lets it, if no emoji selector acts
upon it. -/
lemma refundable_widthBefore_le (c : Char) (right : RightContext) :
    ((widthBefore c right).2.shape.refundable : Int) ≤
      right.shape.refundable + (widthBefore c right).1 := by
  have halone : ((Shape.ofChar c).refundable : Int) ≤ right.shape.refundable + baseWidth c := by
    have := refundable_ofChar_le c
    omega
  unfold widthBefore
  simp only
  split
  · split
    · simp [Shape.refundable, RightContext.start]
    · exact halone
  split
  · simpa using refundable_withEmojiSelector_le right.shape
  split
  · simpa using refundable_withTextSelector_le right.shape
  split
  · have hstart : RightContext.start.shape.refundable = 0 := rfl
    simp only [hstart]
    omega
  -- what is left of the shape once a text selector has found nothing to act upon
  generalize hshape :
    (if right.presentation == .text then right.shape.withoutSelector else right.shape) = shape
  have hless : shape.refundable ≤ right.shape.refundable := by
    rw [← hshape]
    split
    · exact refundable_withoutSelector_le _
    · exact le_rfl
  split
  · simpa [Shape.context, refundable_withJoiner] using hless
  split
  · simpa [Shape.context] using hless
  cases hligature : ligature? c shape with
  | none => exact halone
  | some added =>
    have hback := refundable_ligature_le hligature
    rw [Option.getD_some]
    omega

/-- One character before a text takes back no more than the text lets it. -/
lemma refundable_addWidth_le (c : Char) (right : RightContext) :
    ((addWidth c right).2.shape.refundable : Int) ≤
      right.shape.refundable + (addWidth c right).1 := by
  unfold addWidth
  split_ifs
  · simp [Shape.refundable, Shape.context]
  · simp [Shape.refundable, Shape.context]
    omega
  · have hplain := refundable_withoutSelector_le right.shape
    have hbefore := refundable_widthBefore_le c right.shape.withoutSelector.context
    simp only [Shape.context] at hbefore ⊢
    omega
  · exact refundable_widthBefore_le c right

/-- Of a text no more may be taken back than it takes. -/
lemma refundable_widthFrom_le (cs : List Char) :
    ((widthFrom cs).2.shape.refundable : Int) ≤ (widthFrom cs).1 := by
  induction cs with
  | nil => exact le_rfl
  | cons c cs ih =>
    have hstep := refundable_addWidth_le c (widthFrom cs).2
    simp only [widthFrom]
    omega

/-- The cells of a text are not fewer than none. -/
lemma natCast_width (cs : List Char) : (width cs : Int) = (widthFrom cs).1 := by
  have := refundable_widthFrom_le cs
  rw [width]
  omega

/-! ## Texts side by side -/

/-- A text that leaves nothing to its left does not change the text before it. -/
lemma widthFrom_append {xs ys : List Char} (h : (widthFrom ys).2 = .start) :
    widthFrom (xs ++ ys) = ((widthFrom ys).1 + (widthFrom xs).1, (widthFrom xs).2) := by
  induction xs with
  | nil =>
    simp [widthFrom, ← h]
  | cons x xs ih =>
    simp only [List.cons_append, widthFrom, ih, add_assoc]

/-- A text that leaves nothing to its left adds its width to that of the text before it. -/
lemma width_append {xs ys : List Char} (h : (widthFrom ys).2 = .start) :
    width (xs ++ ys) = width xs + width ys := by
  have hsum := natCast_width (xs ++ ys)
  rw [widthFrom_append h, ← natCast_width, ← natCast_width] at hsum
  omega

/-! ## Plain characters -/

/-- Where nothing matters to its right, the character takes the cells that it takes by itself, and
nothing of it matters to its left. -/
def IsPlain (c : Char) : Prop := addWidth c .start = ((((charWidth? c).getD 0 : Nat) : Int), .start)

/-- Plain characters are counted one by one. -/
lemma widthFrom_of_plain {cs : List Char} (h : ∀ c ∈ cs, IsPlain c) :
    widthFrom cs = ((((cs.map fun c => (charWidth? c).getD 0).sum : Nat) : Int), .start) := by
  induction cs with
  | nil => rfl
  | cons c cs ih =>
    rw [List.forall_mem_cons] at h
    have hfirst : addWidth c .start = ((((charWidth? c).getD 0 : Nat) : Int), .start) := h.1
    simp only [widthFrom, ih h.2, hfirst, List.map_cons, List.sum_cons]
    rw [add_comm, Nat.cast_add]

/-- The character is an ASCII character that is no control. -/
def IsPrintable (c : Char) : Prop := 0x20 ≤ c.toNat ∧ c.toNat ≤ 0x7E

instance : DecidablePred IsPrintable := fun _ => inferInstanceAs (Decidable (_ ∧ _))

/-- A printable character begins no shape. -/
lemma ofChar_of_printable {c : Char} (h : IsPrintable c) : Shape.ofChar c = .plain := by
  obtain ⟨hlo, hhi⟩ := h
  have hnewline : c ≠ '\n' := by
    rintro rfl
    exact absurd hlo (by decide)
  have hranges : ∀ range ∈ emojiByDefault.toList, 0x7E < range.1 := by decide +kernel
  have hemoji : emojiByDefault.holds c = false :=
    CharRanges.holds_eq_false fun range hrange => Or.inl (hhi.trans_lt (hranges range hrange))
  have hcode : ∀ n, 0x7E < n → (c.toNat == n) = false :=
    fun n hn => beq_eq_false_iff_ne.mpr (by omega)
  have hrange : ∀ lo hi, 0x7E < lo → between c lo hi = false := by
    intro lo hi hlow
    rw [between, decide_eq_false (by omega), Bool.false_and]
  simp only [Shape.ofChar, hnewline, hemoji, hcode, hrange, isSkinTone, isRegional, isAlef,
    isTifinaghLetter, isKhmerLetter, Nat.reduceLT, Bool.or_self, Bool.false_eq_true, if_false]

/-- A printable character takes one cell before a text in which no emoji selector acts upon it. -/
lemma widthBefore_of_printable {c : Char} (h : IsPrintable c) (right : RightContext) :
    widthBefore c right = (1, .start) := by
  have hreturn : c ≠ '\r' := by
    rintro rfl
    exact absurd h.1 (by decide)
  have hlow : c.toNat ≤ 0xA0 := h.2.trans (by decide)
  simp only [widthBefore, hlow, hreturn, if_true, decide_false, Bool.false_and, Bool.false_eq_true,
    if_false, baseWidth, ofChar_of_printable h]
  rfl

lemma isPlain_of_printable {c : Char} (h : IsPrintable c) : IsPlain c := by
  have hcontrol : isControl c = false := by
    obtain ⟨hlo, hhi⟩ := h
    simp only [isControl, between, Bool.or_eq_false_iff, Bool.and_eq_false_iff,
      decide_eq_false_iff_not]
    omega
  have hlow : c.toNat ≤ 0xA0 := h.2.trans (by decide)
  have hone : charWidth? c = some 1 := by
    simp only [charWidth?, hcontrol, Bool.false_eq_true, if_false, baseWidth, hlow, if_true]
  rw [IsPlain, hone]
  exact widthBefore_of_printable h .start

lemma isPlain_ellipsis : IsPlain '…' := by
  unfold IsPlain
  decide +kernel

/-- A space takes one cell before any text. -/
lemma addWidth_space (right : RightContext) : addWidth ' ' right = (1, .start) := by
  have hspace : IsPrintable ' ' := by decide
  have hemoji : emojiOnRequest.holds ' ' = false := by decide +kernel
  simp only [addWidth, hemoji, Bool.false_eq_true, if_false, widthBefore_of_printable hspace,
    ite_self]

/-- Spaces before a text add to its width. -/
lemma width_spaces_append (n : Nat) (cs : List Char) :
    width (List.replicate n ' ' ++ cs) = n + width cs := by
  induction n with
  | zero => simp
  | succ n ih =>
    have hsum := natCast_width (List.replicate (n + 1) ' ' ++ cs)
    simp only [List.replicate_succ, List.cons_append, widthFrom, addWidth_space] at hsum
    rw [← natCast_width, ih] at hsum
    rw [List.replicate_succ, List.cons_append]
    omega

/-- Spaces after a text add to its width. -/
lemma width_append_spaces (n : Nat) (cs : List Char) :
    width (cs ++ List.replicate n ' ') = width cs + n := by
  have hplain : ∀ c ∈ List.replicate n ' ', IsPlain c := by
    intro c hc
    rw [List.eq_of_mem_replicate hc]
    exact isPlain_of_printable (by decide)
  have hspaces := width_spaces_append n []
  rw [List.append_nil, width_nil, Nat.add_zero] at hspaces
  rw [width_append (by rw [widthFrom_of_plain hplain]), hspaces]

end FlowWatch.Text
