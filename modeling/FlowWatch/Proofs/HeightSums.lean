import Mathlib
import FlowWatch.Table.HeightIndex

/-!
# Sums of row heights

What a height index says about the list of heights it was built from.  Node `i` of the tree holds
the heights of the rows from `i &&& (i + 1)` to `i`.  A prefix sum walks over nodes whose rows lie
end to end, and a change of one height touches exactly the nodes that hold its row, so both agree
with the plain list (`Indexes`).

From there on the tree is never opened: offsets are sums of the heights before a row
(`Indexes.offsetOf_eq`), they grow with the row, and the search for an offset finds the one row
whose span holds it (`Indexes.lowerBound_eq_some_iff`).
-/

namespace FlowWatch

namespace HeightIndex

/-! ## The rows of a node -/

/-- Node `i` holds the height of row `row`. -/
def NodeHolds (i row : Nat) : Prop := i &&& (i + 1) ≤ row ∧ row ≤ i

instance (i row : Nat) : Decidable (NodeHolds i row) := inferInstanceAs (Decidable (_ ∧ _))

/-- Every node holds the height of its own row. -/
lemma nodeHolds_self (i : Nat) : NodeHolds i i := ⟨Nat.and_le_left, le_rfl⟩

/-- A node at an even place holds a single row. -/
lemma nodeHolds_even_iff {a row : Nat} : NodeHolds (2 * a) row ↔ row = 2 * a := by
  have h : (2 * a) &&& (2 * a + 1) = 2 * a := by
    simpa [Nat.bit_val] using Nat.land_bit false a true a
  unfold NodeHolds
  rw [h]
  omega

/-- A node at an odd place holds the rows that its half holds, two for each. -/
lemma nodeHolds_odd_iff {a row : Nat} : NodeHolds (2 * a + 1) row ↔ NodeHolds a (row / 2) := by
  have h : (2 * a + 1) &&& (2 * a + 1 + 1) = 2 * (a &&& (a + 1)) := by
    simpa [Nat.bit_val, Nat.mul_add] using Nat.land_bit true a false (a + 1)
  unfold NodeHolds
  rw [h]
  omega

/-- Setting the lowest zero of an even number leaves its half alone. -/
lemma even_setLowestZero (b : Nat) : (2 * b) ||| (2 * b + 1) = 2 * b + 1 := by
  simpa [Nat.bit_val] using Nat.lor_bit false b true b

/-- Setting the lowest zero of an odd number sets the lowest zero of its half. -/
lemma odd_setLowestZero (b : Nat) :
    (2 * b + 1) ||| (2 * b + 1 + 1) = 2 * (b ||| (b + 1)) + 1 := by
  simpa [Nat.bit_val, Nat.mul_add] using Nat.lor_bit true b false (b + 1)

/-- The nodes that hold a row, apart from the node at the row itself, are those that hold the node
an update turns to next. -/
lemma nodeHolds_setLowestZero_iff {i row : Nat} (hne : i ≠ row) :
    NodeHolds i (row ||| (row + 1)) ↔ NodeHolds i row := by
  induction i using Nat.strong_induction_on generalizing row with
  | _ i ih =>
    obtain ⟨a, rfl | rfl⟩ := Nat.even_or_odd' i
    · obtain ⟨b, rfl | rfl⟩ := Nat.even_or_odd' row
      · rw [even_setLowestZero, nodeHolds_even_iff, nodeHolds_even_iff]
        omega
      · rw [odd_setLowestZero, nodeHolds_even_iff, nodeHolds_even_iff]
        omega
    · obtain ⟨b, rfl | rfl⟩ := Nat.even_or_odd' row
      · rw [even_setLowestZero, nodeHolds_odd_iff, nodeHolds_odd_iff]
        have hhalf : (2 * b + 1) / 2 = 2 * b / 2 := by omega
        rw [hhalf]
      · rw [odd_setLowestZero, nodeHolds_odd_iff, nodeHolds_odd_iff]
        have hhalf : (2 * (b ||| (b + 1)) + 1) / 2 = b ||| (b + 1) := by omega
        have hrow : (2 * b + 1) / 2 = b := by omega
        rw [hhalf, hrow]
        exact ih a (by omega) (by omega)

/-! ## Trees of sums -/

/-- Adding at a row changes exactly the nodes that hold it. -/
lemma getD_addAt {tree : Array Int} {row : Nat} {delta : Int} {j : Nat} (hj : j < tree.size) :
    (addAt tree row delta).getD j 0 =
      tree.getD j 0 + if NodeHolds j row then delta else 0 := by
  fun_induction addAt tree row delta with
  | case1 tree i h ih =>
    rw [ih (by simpa using hj)]
    by_cases hij : j = i
    · subst hij
      have hnot : ¬ NodeHolds j (j ||| (j + 1)) := fun hh =>
        absurd hh.2 (Nat.not_le.mpr (lt_setLowestZero j))
      simp [hnot, nodeHolds_self, hj]
    · have hget : (tree.set i (tree[i] + delta)).getD j 0 = tree.getD j 0 := by
        simp [Array.getD_eq_getD_getElem?, Ne.symm hij]
      rw [hget]
      simp only [nodeHolds_setLowestZero_iff hij]
  | case2 tree i h =>
    have hnot : ¬ NodeHolds j i := fun hh => h (lt_of_le_of_lt hh.2 hj)
    simp [hnot]

/-- Every node holds the sum of the heights of its rows. -/
def Sums (tree : Array Int) (height : Nat → Int) : Prop :=
  ∀ i < tree.size, tree.getD i 0 = ∑ row ∈ Finset.Ico (i &&& (i + 1)) (i + 1), height row

/-- Adding at a row gives that row another height and leaves the others. -/
lemma Sums.addAt {tree : Array Int} {height : Nat → Int} (hs : Sums tree height) (row : Nat)
    (delta : Int) :
    Sums (addAt tree row delta) fun k => height k + if k = row then delta else 0 := by
  intro i hi
  have hi' : i < tree.size := by rwa [size_addAt] at hi
  have hmem : row ∈ Finset.Ico (i &&& (i + 1)) (i + 1) ↔ NodeHolds i row := by
    rw [Finset.mem_Ico, Nat.lt_succ_iff, NodeHolds]
  rw [getD_addAt hi', hs i hi', Finset.sum_add_distrib, Finset.sum_ite_eq']
  simp only [hmem]

/-- The sum met from a node downwards is the sum of all heights up to it. -/
lemma Sums.sumFrom_eq {tree : Array Int} {height : Nat → Int} (hs : Sums tree height) {i : Nat}
    (hi : i < tree.size) : sumFrom tree i = ∑ row ∈ Finset.range (i + 1), height row := by
  fun_induction sumFrom tree i with
  | case1 i below here hzero =>
    rw [Finset.range_eq_Ico, ← hzero]
    exact hs i hi
  | case2 i below here hpos ih =>
    have hle : below ≤ i := Nat.and_le_left
    have hsucc : below - 1 + 1 = below := by omega
    rw [ih (by omega), hsucc, Finset.range_eq_Ico, Finset.range_eq_Ico, add_comm,
      ← Finset.sum_Ico_consecutive height (Nat.zero_le below) (by omega : below ≤ i + 1)]
    congr 1
    exact hs i hi

/-- Adding the heights of consecutive rows one by one. -/
lemma Sums.foldl_addAt (heights : List Nat) :
    ∀ (start : Nat) {tree : Array Int} {height : Nat → Int}, Sums tree height →
      Sums ((heights.zipIdx start).foldl (fun tree (h, i) => HeightIndex.addAt tree i h) tree)
        fun row => height row + if start ≤ row then (heights.getD (row - start) 0 : Int) else 0 := by
  induction heights with
  | nil =>
    intro start tree height hs
    simpa using hs
  | cons first heights ih =>
    intro start tree height hs
    rw [List.zipIdx_cons, List.foldl_cons]
    convert ih (start + 1) (hs.addAt start first) using 2 with row
    rcases lt_trichotomy row start with hlt | rfl | hgt
    · simp [Nat.not_le.mpr hlt, hlt.ne, Nat.not_le.mpr (Nat.lt_succ_of_lt hlt)]
    · simp
    · obtain ⟨k, rfl⟩ := Nat.exists_eq_add_of_lt hgt
      have hsub : start + k + 1 - start = k + 1 := by omega
      have hsub' : start + k + 1 - (start + 1) = k := by omega
      have hne : start + k + 1 ≠ start := by omega
      have hle : start ≤ start + k + 1 := by omega
      have hle' : start + 1 ≤ start + k + 1 := by omega
      simp only [hsub, hsub', hle, hle', hne, if_true, if_false, List.getD_cons_succ, add_zero]

/-! ## Searching an offset -/

/-- The search ends at a row that does not begin below the offset; unless it runs out of rows, that
row ends below the offset. -/
lemma searchAbove_spec (x : HeightIndex) (value count : Nat) :
    ∀ {left right : Nat}, left ≤ right → right ≤ count → x.offsetOf left ≤ value →
      (right < count → value < x.offsetOf (right + 1)) →
      x.searchAbove value left right ≤ count ∧
        x.offsetOf (x.searchAbove value left right) ≤ value ∧
        (x.searchAbove value left right < count →
          value < x.offsetOf (x.searchAbove value left right + 1)) := by
  intro left right
  fun_induction searchAbove x value left right with
  | case1 left right hlt mid habove ih =>
    intro _ hright hleft _
    exact ih (by omega) (by omega) hleft fun _ => habove
  | case2 left right hlt mid hbelow ih =>
    intro _ hright _ hstop
    exact ih (by omega) hright (Nat.not_lt.mp hbelow) hstop
  | case3 left right hge =>
    intro hle hright hleft hstop
    obtain rfl : left = right := by omega
    exact ⟨hright, hleft, hstop⟩

/-! ## An index of a list of heights -/

/-- The index describes exactly these rows, with these heights. -/
structure Indexes (x : HeightIndex) (heights : List Nat) : Prop where
  len_eq : x.len = heights.length
  sums : Sums x.tree fun row => (heights.getD row 0 : Int)

/-- The index of a list of heights describes that list. -/
theorem indexes_ofHeights (heights : List Nat) : (ofHeights heights).Indexes heights := by
  refine ⟨len_ofHeights heights, ?_⟩
  have hzero : Sums (Array.replicate heights.length 0) fun _ => 0 := by
    intro i hi
    have hi' : i < heights.length := by simpa using hi
    simp [Array.getD_eq_getD_getElem?, hi']
  simpa [ofHeights] using Sums.foldl_addAt heights 0 hzero

namespace Indexes

variable {x : HeightIndex} {heights : List Nat}

/-- The nodes met from a row downwards hold the heights up to and including the row. -/
theorem sumFrom_eq (hx : x.Indexes heights) {row : Nat} (hrow : row < heights.length) :
    sumFrom x.tree row = ((heights.take (row + 1)).sum : Nat) := by
  have hsize : row < x.tree.size := by
    have hlen : x.tree.size = heights.length := hx.len_eq
    omega
  have hsum : ∀ n, ∑ k ∈ Finset.range n, (heights.getD k 0 : Int) = ((heights.take n).sum : Nat) := by
    intro n
    induction n with
    | zero => simp
    | succ n ih =>
      rw [Finset.sum_range_succ, ih, List.take_add_one, List.sum_append,
        List.getD_eq_getElem?_getD]
      cases heights[n]? <;> simp
  rw [hx.sums.sumFrom_eq hsize, hsum]

/-- A prefix sum is the sum of the heights up to and including the row. -/
theorem prefixSum_eq (hx : x.Indexes heights) {row : Nat} (hrow : row < heights.length) :
    x.prefixSum row = (heights.take (row + 1)).sum := by
  rw [prefixSum, hx.sumFrom_eq hrow, Int.toNat_natCast]

/-- The offset of a row is the sum of the heights before it. -/
theorem offsetOf_eq (hx : x.Indexes heights) {row : Nat} (hrow : row ≤ heights.length) :
    x.offsetOf row = (heights.take row).sum := by
  cases row with
  | zero => rfl
  | succ row => exact hx.prefixSum_eq hrow

/-- The next row begins where a row ends. -/
theorem offsetOf_succ (hx : x.Indexes heights) {row : Nat} (hrow : row < heights.length) :
    x.offsetOf (row + 1) = x.offsetOf row + heights[row] := by
  rw [hx.offsetOf_eq hrow, hx.offsetOf_eq hrow.le, List.take_add_one, List.sum_append,
    List.getElem?_eq_getElem hrow]
  simp

/-- Rows further down begin no higher. -/
theorem offsetOf_mono (hx : x.Indexes heights) {i j : Nat} (hij : i ≤ j)
    (hj : j ≤ heights.length) : x.offsetOf i ≤ x.offsetOf j := by
  induction j, hij using Nat.le_induction with
  | base => exact le_rfl
  | succ j hij ih =>
    rw [hx.offsetOf_succ hj]
    exact (ih (Nat.le_of_succ_le hj)).trans (Nat.le_add_right ..)

/-- Every row that has a height takes a line at least. -/
theorem offsetOf_add_le (hx : x.Indexes heights) (hpos : ∀ height ∈ heights, 0 < height) {i j : Nat}
    (hij : i ≤ j) (hj : j ≤ heights.length) : x.offsetOf i + (j - i) ≤ x.offsetOf j := by
  induction j, hij using Nat.le_induction with
  | base => rw [Nat.sub_self, Nat.add_zero]
  | succ j hij ih =>
    have hrow : 0 < heights[j] := hpos _ (List.getElem_mem hj)
    have hbefore := ih (Nat.le_of_succ_le hj)
    rw [hx.offsetOf_succ hj]
    omega

/-- The end of the last row is the sum of all heights. -/
theorem total_eq (hx : x.Indexes heights) : x.total = heights.sum := by
  rw [total, hx.len_eq, hx.offsetOf_eq le_rfl, List.take_length]

/-- The offset after the last row is the sum of all heights. -/
theorem offsetOf_length (hx : x.Indexes heights) : x.offsetOf heights.length = x.total := by
  rw [total, hx.len_eq]

/-- No row begins below the end of the last one. -/
theorem offsetOf_le_total (hx : x.Indexes heights) {row : Nat} (hrow : row ≤ heights.length) :
    x.offsetOf row ≤ x.total := by
  rw [← hx.offsetOf_length]
  exact hx.offsetOf_mono hrow le_rfl

/-- The height of a row is the one it was given. -/
theorem height_eq (hx : x.Indexes heights) {row : Nat} (hrow : row < heights.length) :
    x.height row = heights[row] := by
  have hsucc : x.prefixSum row = x.offsetOf row + heights[row] := hx.offsetOf_succ hrow
  rw [height, hsucc, Nat.add_sub_cancel_left]

/-- The search finds the row whose span holds the offset. -/
theorem lowerBound_eq_some_iff (hx : x.Indexes heights) {value row : Nat} :
    x.lowerBound value = some row ↔
      row < heights.length ∧ x.offsetOf row ≤ value ∧ value < x.offsetOf (row + 1) := by
  obtain ⟨hle, hbegin, hend⟩ := x.searchAbove_spec value heights.length (Nat.zero_le _) le_rfl
    (Nat.zero_le value) fun h => absurd h (lt_irrefl _)
  simp only [lowerBound, hx.len_eq]
  constructor
  · intro h
    split at h
    · cases h
      exact ⟨‹_›, hbegin, hend ‹_›⟩
    · cases h
  · rintro ⟨hrow, hrow₁, hrow₂⟩
    set found := x.searchAbove value 0 heights.length with hfound
    have hnot₁ : ¬ found < row := by
      intro hlt
      have hmono : x.offsetOf (found + 1) ≤ x.offsetOf row := hx.offsetOf_mono hlt hrow.le
      exact absurd (hend (hlt.trans hrow)) (by omega)
    have hnot₂ : ¬ row < found := by
      intro hlt
      have hmono : x.offsetOf (row + 1) ≤ x.offsetOf found := hx.offsetOf_mono hlt hle
      omega
    obtain rfl : found = row := by omega
    rw [if_pos hrow]

/-- The search fails exactly at and below the end of the last row. -/
theorem lowerBound_eq_none_iff (hx : x.Indexes heights) {value : Nat} :
    x.lowerBound value = none ↔ x.total ≤ value := by
  obtain ⟨hle, hbegin, hend⟩ := x.searchAbove_spec value heights.length (Nat.zero_le _) le_rfl
    (Nat.zero_le value) fun h => absurd h (lt_irrefl _)
  simp only [lowerBound, hx.len_eq, ← hx.offsetOf_length]
  constructor
  · intro h
    split at h
    · cases h
    · have hall : x.searchAbove value 0 heights.length = heights.length := by omega
      rwa [hall] at hbegin
  · intro htotal
    rw [if_neg]
    intro hlt
    have hmono := hx.offsetOf_mono (Nat.succ_le_of_lt hlt) le_rfl
    exact absurd (hend hlt) (Nat.not_lt.mpr (hmono.trans htotal))

end Indexes

end HeightIndex

end FlowWatch
