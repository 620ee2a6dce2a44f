import Mathlib
import FlowWatch.Proofs.HeightSums

/-!
# Heights that change

A height index under changes of single heights.  A change adds a difference at one row, so that the
tree holds the sums of the changed list afterwards (`Indexes.set`).  The sums of a list leave no
choice for the tree (`Indexes.unique`).  An index that has been changed is therefore the very index
that is built from the changed list, and all its answers are read off that list.
-/

namespace FlowWatch

/-- A request to give a row another height. -/
structure HeightChange where
  index : Nat
  height : Nat
deriving DecidableEq, Repr

namespace HeightChange

/-- The list of heights after a change; a row that is not there changes nothing. -/
def apply (heights : List Nat) (change : HeightChange) : List Nat :=
  heights.set change.index change.height

/-- The list of heights after changes, one after another. -/
def applyAll (heights : List Nat) (changes : List HeightChange) : List Nat :=
  changes.foldl apply heights

end HeightChange

namespace HeightIndex

/-- The index after a change; one that is refused leaves it as it is. -/
def follow (x : HeightIndex) (change : HeightChange) : HeightIndex :=
  match x.set? change.index change.height with
  | .ok changed => changed
  | .error _ => x

/-- The index after changes, one after another. -/
def followAll (x : HeightIndex) (changes : List HeightChange) : HeightIndex :=
  changes.foldl follow x

namespace Indexes

variable {x y : HeightIndex} {heights : List Nat}

/-- A change of one height leads to an index of the changed list. -/
theorem set (hx : x.Indexes heights) {row : Nat} (hrow : row < heights.length) (height : Nat) :
    (x.set row height).Indexes (heights.set row height) where
  len_eq := by rw [len_set, List.length_set, hx.len_eq]
  sums := by
    have hadded := hx.sums.addAt row ((height : Int) - x.height row)
    rw [hx.height_eq hrow] at hadded
    rw [HeightIndex.set, hx.height_eq hrow]
    convert hadded using 2 with k
    rw [List.getD_eq_getElem?_getD, List.getD_eq_getElem?_getD, List.getElem?_set]
    rcases eq_or_ne row k with rfl | hne
    · -- the difference replaces the old height by the new one
      rw [if_pos rfl, if_pos hrow, if_pos rfl, List.getElem?_eq_getElem hrow]
      simp
    · rw [if_neg hne, if_neg hne.symm, add_zero]

/-- The heights of the rows leave no choice for the tree. -/
theorem unique (hx : x.Indexes heights) (hy : y.Indexes heights) : x = y := by
  have hlen : x.tree.size = y.tree.size := hx.len_eq.trans hy.len_eq.symm
  have htree : x.tree = y.tree := by
    refine Array.ext hlen fun i hi hi' => ?_
    have hnode := (hx.sums i hi).trans (hy.sums i hi').symm
    simpa [hi, hi'] using hnode
  cases x
  cases y
  exact congrArg _ htree

/-- An index of a list is the one that is built from it. -/
theorem eq_ofHeights (hx : x.Indexes heights) : x = ofHeights heights :=
  hx.unique (indexes_ofHeights heights)

/-- A change that is asked for is made in the index exactly if it is made in the list. -/
theorem follow (hx : x.Indexes heights) (change : HeightChange) :
    (x.follow change).Indexes (change.apply heights) := by
  unfold HeightIndex.follow HeightChange.apply set?
  by_cases hrow : change.index < heights.length
  · rw [if_pos (hx.len_eq ▸ hrow)]
    exact hx.set hrow change.height
  · rw [if_neg (hx.len_eq ▸ hrow), List.set_eq_of_length_le (Nat.not_lt.mp hrow)]
    exact hx

/-- So is every one of several changes. -/
theorem followAll (hx : x.Indexes heights) (changes : List HeightChange) :
    (x.followAll changes).Indexes (HeightChange.applyAll heights changes) := by
  induction changes generalizing x heights with
  | nil => exact hx
  | cons change changes ih => exact ih (hx.follow change)

/-! ## The answers of an index -/

/-- The prefix sum of a row that is there. -/
theorem prefixSum?_eq (hx : x.Indexes heights) {row : Nat} (hrow : row < heights.length) :
    x.prefixSum? row = .ok (heights.take (row + 1)).sum := by
  rw [prefixSum?, if_pos (hx.len_eq ▸ hrow), hx.prefixSum_eq hrow]

/-- The offset of a row that is there, and the end of the last one. -/
theorem offsetOf?_eq (hx : x.Indexes heights) {row : Nat} (hrow : row ≤ heights.length) :
    x.offsetOf? row = .ok (heights.take row).sum := by
  cases row with
  | zero => rfl
  | succ row => exact hx.prefixSum?_eq hrow

/-- The height of a row that is there. -/
theorem height?_eq (hx : x.Indexes heights) {row : Nat} (hrow : row < heights.length) :
    x.height? row = .ok heights[row] := by
  rw [height?, if_pos (hx.len_eq ▸ hrow), hx.height_eq hrow]

/-- The search finds the first row whose prefix sum exceeds the offset, also among rows without
height. -/
theorem lowerBound_eq_some_iff_least (hx : x.Indexes heights) {value row : Nat} :
    x.lowerBound value = some row ↔
      row < heights.length ∧ value < (heights.take (row + 1)).sum ∧
        ∀ earlier < row, (heights.take (earlier + 1)).sum ≤ value := by
  rw [hx.lowerBound_eq_some_iff]
  constructor
  · rintro ⟨hrow, hbegin, hend⟩
    refine ⟨hrow, hx.offsetOf_eq hrow ▸ hend, fun earlier hearlier => ?_⟩
    rw [← hx.offsetOf_eq (Nat.succ_le_of_lt (hearlier.trans hrow))]
    exact (hx.offsetOf_mono (Nat.succ_le_of_lt hearlier) hrow.le).trans hbegin
  · rintro ⟨hrow, hend, hleast⟩
    refine ⟨hrow, ?_, hx.offsetOf_eq hrow ▸ hend⟩
    cases row with
    | zero => exact Nat.zero_le value
    | succ before =>
      rw [hx.offsetOf_eq hrow.le]
      exact hleast before (Nat.lt_succ_self before)

end Indexes

/-- **Refinement of the list.**  After any changes the index is the one built from the changed list.
Its sums, offsets and heights are those of that list, the search finds the first row whose prefix
sum exceeds the offset and fails exactly from the total on, and a change of a row that is not there
is refused and leaves the index as it is. -/
theorem index_refines_heights (heights : List Nat) (changes : List HeightChange) :
    let x := (ofHeights heights).followAll changes
    let list := HeightChange.applyAll heights changes
    x = ofHeights list ∧
    (∀ (row : Nat) (hrow : row < list.length),
      x.prefixSum? row = .ok (list.take (row + 1)).sum ∧ x.height? row = .ok list[row]) ∧
    (∀ row ≤ list.length, x.offsetOf? row = .ok (list.take row).sum) ∧
    x.total = list.sum ∧
    (∀ value row : Nat, x.lowerBound value = some row ↔
      row < list.length ∧ value < (list.take (row + 1)).sum ∧
        ∀ earlier < row, (list.take (earlier + 1)).sum ≤ value) ∧
    (∀ value : Nat, x.lowerBound value = none ↔ list.sum ≤ value) ∧
    ∀ row height : Nat, list.length ≤ row →
      x.set? row height = .error ⟨row, list.length⟩ ∧ x.follow ⟨row, height⟩ = x := by
  intro x list
  have hx : x.Indexes list := (indexes_ofHeights heights).followAll changes
  refine ⟨hx.eq_ofHeights, fun row hrow => ⟨hx.prefixSum?_eq hrow, hx.height?_eq hrow⟩,
    fun row hrow => hx.offsetOf?_eq hrow, hx.total_eq,
    fun value row => hx.lowerBound_eq_some_iff_least, fun value => ?_, fun row height hrow => ?_⟩
  · rw [hx.lowerBound_eq_none_iff, hx.total_eq]
  · have hrefused : x.set? row height = .error ⟨row, list.length⟩ := by
      rw [set?, hx.len_eq, if_neg (Nat.not_lt.mpr hrow)]
    refine ⟨hrefused, ?_⟩
    rw [HeightIndex.follow, hrefused]

end HeightIndex

end FlowWatch
