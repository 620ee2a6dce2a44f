/-!
# Height index

Cumulative row heights with logarithmic updates and queries.  The index is a binary indexed tree:
node `i` holds the sum of the heights of the rows from `i &&& (i + 1)` to `i`, so a prefix sum adds
the nodes found by clearing trailing ones, and an update touches the nodes found by setting the
lowest zero.

`prefixSum`, `offsetOf` and `lowerBound` are total; the variants ending in `?` refuse a row outside
the index.
-/

namespace FlowWatch

/-- Row heights in row order, kept as a binary indexed tree. -/
structure HeightIndex where
  tree : Array Int
deriving DecidableEq, Repr

/-- A row that lies outside an index of `len` rows. -/
structure RowOutOfBounds where
  index : Nat
  len : Nat
deriving DecidableEq, Repr

/-- The text of the refusal. -/
def RowOutOfBounds.message (e : RowOutOfBounds) : String :=
  s!"index {e.index} out of bounds (len: {e.len})"

namespace HeightIndex

/-- Setting the lowest zero bit increases a number. -/
theorem lt_setLowestZero (i : Nat) : i < i ||| (i + 1) :=
  Nat.lt_of_lt_of_le (Nat.lt_succ_self i) Nat.right_le_or

/-- Adds `delta` to node `i` and to every later node whose span holds row `i`. -/
def addAt (tree : Array Int) (i : Nat) (delta : Int) : Array Int :=
  if h : i < tree.size then
    addAt (tree.set i (tree[i] + delta)) (i ||| (i + 1)) delta
  else tree
termination_by tree.size - i
decreasing_by
  have := lt_setLowestZero i
  simp only [Array.size_set]
  omega

/-- The sum of the nodes met from node `i` downwards. -/
def sumFrom (tree : Array Int) (i : Nat) : Int :=
  let below := i &&& (i + 1)
  let here := tree.getD i 0
  if _ : below = 0 then here else here + sumFrom tree (below - 1)
termination_by i
decreasing_by
  have : below ≤ i := Nat.and_le_left
  omega

/-- The number of rows. -/
def len (x : HeightIndex) : Nat := x.tree.size

/-- The sum of the heights of the rows up to and including `index`. -/
def prefixSum (x : HeightIndex) (index : Nat) : Nat := (sumFrom x.tree index).toNat

/-- The offset of the top edge of row `index`: the sum of the heights before it. -/
def offsetOf (x : HeightIndex) : Nat → Nat
  | 0 => 0
  | index + 1 => x.prefixSum index

/-- The height of row `index`. -/
def height (x : HeightIndex) (index : Nat) : Nat := x.prefixSum index - x.offsetOf index

/-- The sum of all heights. -/
def total (x : HeightIndex) : Nat := x.offsetOf x.len

/-- The index of the given heights, in row order. -/
def ofHeights (heights : List Nat) : HeightIndex :=
  let start : Array Int := Array.replicate heights.length 0
  ⟨heights.zipIdx.foldl (fun tree (height, i) => addAt tree i height) start⟩

/-- Gives row `index` another height; a row outside the index changes nothing. -/
def set (x : HeightIndex) (index height : Nat) : HeightIndex :=
  ⟨addAt x.tree index ((height : Int) - x.height index)⟩

/-- The least row between `left` and `right` whose prefix sum exceeds `value`, or `right`. -/
def searchAbove (x : HeightIndex) (value left right : Nat) : Nat :=
  if h : left < right then
    let mid := left + (right - left) / 2
    if x.prefixSum mid > value then x.searchAbove value left mid
    else x.searchAbove value (mid + 1) right
  else left
termination_by right - left

/-- The row whose span holds the offset `value`: the first whose prefix sum exceeds it. -/
def lowerBound (x : HeightIndex) (value : Nat) : Option Nat :=
  let row := x.searchAbove value 0 x.len
  if row < x.len then some row else none

/-- `prefixSum`, for a row of the index only. -/
def prefixSum? (x : HeightIndex) (index : Nat) : Except RowOutOfBounds Nat :=
  if index < x.len then .ok (x.prefixSum index) else .error ⟨index, x.len⟩

/-- `offsetOf`, for a row of the index or the end of the last one. -/
def offsetOf? (x : HeightIndex) : Nat → Except RowOutOfBounds Nat
  | 0 => .ok 0
  | index + 1 => x.prefixSum? index

/-- `height`, for a row of the index only. -/
def height? (x : HeightIndex) (index : Nat) : Except RowOutOfBounds Nat :=
  if index < x.len then .ok (x.height index) else .error ⟨index, x.len⟩

/-- `set`, for a row of the index only. -/
def set? (x : HeightIndex) (index height : Nat) : Except RowOutOfBounds HeightIndex :=
  if index < x.len then .ok (x.set index height) else .error ⟨index, x.len⟩

theorem size_addAt (tree : Array Int) (i : Nat) (delta : Int) :
    (addAt tree i delta).size = tree.size := by
  fun_induction addAt tree i delta with
  | case1 tree i h ih => simpa using ih
  | case2 => rfl

@[simp]
theorem len_set (x : HeightIndex) (index height : Nat) : (x.set index height).len = x.len :=
  size_addAt ..

@[simp]
theorem len_ofHeights (heights : List Nat) : (ofHeights heights).len = heights.length := by
  have key : ∀ (l : List (Nat × Nat)) (tree : Array Int),
      (l.foldl (fun tree (height, i) => addAt tree i height) tree).size = tree.size := by
    intro l
    induction l with
    | nil => intro tree; rfl
    | cons p l ih => intro tree; simpa [size_addAt] using ih (addAt tree p.2 p.1)
  simpa [ofHeights, len] using key heights.zipIdx (Array.replicate heights.length 0)

end HeightIndex

end FlowWatch
