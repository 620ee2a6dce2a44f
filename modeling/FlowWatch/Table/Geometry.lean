/-!
# Scroll geometry

Row heights, viewports and scroll offsets.  A scroll offset is an integer kept between
`Offset.lowest` and `Offset.highest`; offsets a host reports may lie outside the content and are
clamped, never refused.
-/

namespace FlowWatch

namespace Offset

/-- The highest offset that can be represented. -/
def highest : Int := 9223372036854775807

/-- The lowest offset that can be represented. -/
def lowest : Int := -9223372036854775808

/-- The representable offset nearest to `x`. -/
def saturate (x : Int) : Int := max lowest (min x highest)

/-- A height as an offset, cut off at the highest one. -/
def ofHeight (height : Nat) : Int := min (height : Int) highest

theorem saturate_eq_self {x : Int} (hlo : lowest ≤ x) (hhi : x ≤ highest) : saturate x = x := by
  unfold saturate
  omega

theorem saturate_le_highest (x : Int) : saturate x ≤ highest := by
  unfold saturate
  simp only [lowest, highest]
  omega

theorem ofHeight_nonneg (height : Nat) : 0 ≤ ofHeight height := by
  unfold ofHeight highest
  omega

theorem ofHeight_eq {height : Nat} (h : (height : Int) ≤ highest) : ofHeight height = height := by
  unfold ofHeight
  omega

end Offset

/-- The height of one table row, in terminal lines; never zero. -/
structure RowHeight where
  lines : Nat
  pos : 0 < lines
deriving DecidableEq, Repr

/-- A row height that no table can use. -/
structure InvalidRowHeight where
  lines : Nat
deriving DecidableEq, Repr

/-- The text of the refusal. -/
def InvalidRowHeight.message (e : InvalidRowHeight) : String :=
  s!"RowHeight must be >= 1 (got {e.lines})"

namespace RowHeight

/-- One line, the natural height of a terminal row. -/
def one : RowHeight := ⟨1, Nat.one_pos⟩

instance : Inhabited RowHeight := ⟨one⟩

/-- Accepts every height but zero. -/
def ofLines (lines : Nat) : Except InvalidRowHeight RowHeight :=
  if h : 0 < lines then .ok ⟨lines, h⟩ else .error ⟨lines⟩

/-- The height as a scroll distance. -/
def offset (h : RowHeight) : Int := h.lines

theorem ofLines_eq_ok_iff {lines : Nat} {h : RowHeight} :
    ofLines lines = .ok h ↔ h.lines = lines := by
  unfold ofLines
  split
  · constructor
    · rintro ⟨⟩; rfl
    · rintro rfl; rfl
  · constructor
    · intro hf; cases hf
    · intro hl; exact absurd (hl ▸ h.pos) ‹_›

theorem ofLines_eq_error_iff {lines : Nat} {e : InvalidRowHeight} :
    ofLines lines = .error e ↔ lines = 0 ∧ e = ⟨0⟩ := by
  unfold ofLines
  split
  · constructor
    · intro hf; cases hf
    · rintro ⟨rfl, -⟩; contradiction
  · have : lines = 0 := by omega
    subst this
    constructor
    · rintro ⟨⟩; exact ⟨rfl, rfl⟩
    · rintro ⟨-, rfl⟩; rfl

end RowHeight

/-- What a host reports of its scroll container: the offset of the top edge and the height. -/
structure Viewport where
  top : Int
  height : Nat
deriving DecidableEq, Repr

namespace Viewport

instance : Inhabited Viewport := ⟨⟨0, 0⟩⟩

/-- The offset of the bottom edge. -/
def bottom (v : Viewport) : Int := Offset.saturate (v.top + v.height)

/-- The same height at another offset. -/
def withTop (v : Viewport) (top : Int) : Viewport := { v with top }

@[simp]
theorem withTop_top (v : Viewport) (top : Int) : (v.withTop top).top = top := rfl

@[simp]
theorem withTop_height (v : Viewport) (top : Int) : (v.withTop top).height = v.height := rfl

end Viewport

/-- The highest offset at which a viewport of height `height` still shows no more than `content`
lines. -/
def maxScrollTop (content height : Nat) : Int := Offset.ofHeight (content - height)

/-- The offset nearest to `top` at which the viewport lies inside the content. -/
def clampScrollTop (top : Int) (content height : Nat) : Int :=
  max 0 (min top (maxScrollTop content height))

theorem maxScrollTop_nonneg (content height : Nat) : 0 ≤ maxScrollTop content height :=
  Offset.ofHeight_nonneg _

theorem clampScrollTop_nonneg (top : Int) (content height : Nat) :
    0 ≤ clampScrollTop top content height := Int.le_max_left ..

theorem clampScrollTop_le (top : Int) (content height : Nat) :
    clampScrollTop top content height ≤ maxScrollTop content height := by
  have := maxScrollTop_nonneg content height
  unfold clampScrollTop
  omega

theorem clampScrollTop_eq_self {top : Int} {content height : Nat} (hlo : 0 ≤ top)
    (hhi : top ≤ maxScrollTop content height) : clampScrollTop top content height = top := by
  unfold clampScrollTop
  omega

end FlowWatch
