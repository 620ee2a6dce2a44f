/-!
# Blank characters

The characters that count as white space, and what is left of a text without them at its ends.
-/

namespace FlowWatch.Text

/-- The characters with the white space property: controls that move on, spaces of every width, and
line and paragraph separators. -/
def isBlank (c : Char) : Bool :=
  let code := c.toNat
  (9 ≤ code && code ≤ 13) || code == 32 || code == 0x85 || code == 0xA0 || code == 0x1680 ||
    (0x2000 ≤ code && code ≤ 0x200A) || code == 0x2028 || code == 0x2029 || code == 0x202F ||
    code == 0x205F || code == 0x3000

/-- The characters from the first that is not blank. -/
def trimStart (cs : List Char) : List Char := cs.dropWhile isBlank

/-- The characters up to the last that is not blank. -/
def trimEnd (cs : List Char) : List Char := (cs.reverse.dropWhile isBlank).reverse

/-- The characters from the first to the last that are not blank. -/
def trim (cs : List Char) : List Char := trimEnd (trimStart cs)

@[simp]
theorem trimStart_nil : trimStart [] = [] := rfl

theorem trimStart_append_of_blank {before cs : List Char} (h : ∀ c ∈ before, isBlank c = true) :
    trimStart (before ++ cs) = trimStart cs := by
  induction before with
  | nil => rfl
  | cons c before ih =>
    have hc : isBlank c = true := h c (by simp)
    simpa [trimStart, hc] using ih fun d hd => h d (by simp [hd])

theorem trimEnd_append_of_blank {cs after : List Char} (h : ∀ c ∈ after, isBlank c = true) :
    trimEnd (cs ++ after) = trimEnd cs := by
  have hr : ∀ c ∈ after.reverse, isBlank c = true := fun c hc => h c (by simpa using hc)
  simpa [trimEnd, trimStart] using
    congrArg List.reverse (trimStart_append_of_blank hr : trimStart (_ ++ cs.reverse) = _)

end FlowWatch.Text
