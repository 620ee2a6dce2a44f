import Mathlib
import FlowWatch.Proofs.DerivedView
import FlowWatch.Proofs.RowGeometry

/-!
# Measured rows that are all of one height

A table whose measured heights are all the uniform one still keeps its rows in a height index and
searches them there.  Its rows lie where uniform rows lie (`contentHeight_level`, `rowSpan_level`,
`indexAtOffset_level`), so a table that has measured them and one that has not answer alike wherever
a row, an offset or the extent is asked for.  They find their windows differently, and so may commit
different ones at different times.

What does not depend on the window is collected in the books of a table.  Two tables with level rows
and the same books have the same books after every call that does not measure heights anew
(`books_step`): each handler changes the contents in the same way, and the step it ends in looks at
the extent only.
-/

namespace FlowWatch

/-! ## Sums of one height -/

namespace HeightIndex.Indexes

variable {x : HeightIndex} {count height : Nat}

/-- Rows of one height begin at its multiples. -/
lemma offsetOf_replicate (hx : x.Indexes (List.replicate count height)) {row : Nat}
    (hrow : row ≤ count) : x.offsetOf row = row * height := by
  rw [hx.offsetOf_eq (by simpa using hrow), List.take_replicate, List.sum_replicate,
    min_eq_left hrow, smul_eq_mul]

/-- Rows of one height are together as high as their number times it. -/
lemma total_replicate (hx : x.Indexes (List.replicate count height)) :
    x.total = count * height := by
  rw [hx.total_eq, List.sum_replicate, smul_eq_mul]

/-- The row of one height that holds an offset is a quotient. -/
lemma lowerBound_replicate (hx : x.Indexes (List.replicate count height)) (hpos : 0 < height)
    (value : Nat) :
    x.lowerBound value = if value / height < count then some (value / height) else none := by
  split
  · rename_i hrow
    rw [hx.lowerBound_eq_some_iff, hx.offsetOf_replicate hrow.le, hx.offsetOf_replicate hrow,
      List.length_replicate]
    exact ⟨hrow, Nat.div_mul_le_self .., Nat.lt_mul_of_div_lt (Nat.lt_succ_self _) hpos⟩
  · rename_i hpast
    rw [hx.lowerBound_eq_none_iff, hx.total_replicate]
    exact (Nat.le_div_iff_mul_le hpos).mp (Nat.not_lt.mp hpast)

end HeightIndex.Indexes

namespace RowMetrics

/-- Overrides that do not count or repeat the uniform height change no height. -/
lemma isLevel_of_overrides {rowHeight : RowHeight} {overrides : Array Nat}
    (h : ∀ height ∈ overrides, height = 0 ∨ height = rowHeight.lines) :
    (RowMetrics.mk rowHeight overrides).IsLevel := by
  intro i
  unfold heightOf
  split
  · rename_i height hheight
    rcases h height (Array.mem_of_getElem? hheight) with hzero | huniform
    · rw [if_pos hzero]
    · split
      · rfl
      · exact huniform
  · rfl

end RowMetrics

namespace Controller

/-! ## Where level rows lie -/

section Layout

variable {settings : TableSettings} {told : Contents} {c : Controller}

/-- The height index of level rows indexes one height. -/
lemma Arranged.indexes_level (h : Arranged settings told c) (hlevel : c.metrics.IsLevel)
    {x : HeightIndex} (hx : c.heights = some x) :
    x.Indexes (List.replicate c.view.len settings.rowHeight.lines) := by
  have hheight : c.metrics.rowHeight = settings.rowHeight := congrArg RowMetrics.rowHeight h.metrics_eq
  rw [← hheight, ← hlevel.heights_eq]
  exact h.indexes hx

/-- Level rows are as high as uniform ones, whether they are measured or not. -/
lemma contentHeight_level (h : Arranged settings told c) (hlevel : c.metrics.IsLevel) :
    c.contentHeight = c.view.len * settings.rowHeight.lines := by
  cases hheights : c.heights with
  | none => rw [h.contentHeight_uniform hheights, h.rule_eq]
  | some x =>
    rw [Arranged.contentHeight_measured hheights, (h.indexes_level hlevel hheights).total_replicate]

/-- Level rows lie where uniform ones do, whether they are measured or not. -/
lemma rowSpan_level (h : Arranged settings told c) (hlevel : c.metrics.IsLevel) {i : Nat}
    (hi : i ≤ c.view.len) :
    c.rowSpan i = (i * settings.rowHeight.lines, settings.rowHeight.lines) := by
  have hheight : c.rowHeightOf i = settings.rowHeight.lines := by
    rw [rowHeightOf, hlevel i, h.metrics_eq]
  rw [h.rowSpan_eq, hheight]
  cases hheights : c.heights with
  | none => rw [h.rowOffset_uniform hheights, h.rule_eq]
  | some x =>
    rw [h.rowOffset_measured hheights hi, (h.indexes_level hlevel hheights).offsetOf_replicate hi]

/-- Level rows are hit where uniform ones are, whether they are measured or not. -/
lemma indexAtOffset_level (h : Arranged settings told c) (hlevel : c.metrics.IsLevel)
    (offset : Nat) :
    c.indexAtOffset offset =
      if offset / settings.rowHeight.lines < c.view.len then
        some (offset / settings.rowHeight.lines) else none := by
  unfold indexAtOffset
  cases hheights : c.heights with
  | none =>
    have hheight : c.metrics.rowHeight = settings.rowHeight :=
      congrArg RowMetrics.rowHeight h.metrics_eq
    simp only [hheight]
  | some x => exact (h.indexes_level hlevel hheights).lowerBound_replicate settings.rowHeight.pos _

end Layout

/-! ## The books of a table -/

/-- What a table keeps besides its settings, the heights of its rows and the window it has
committed. -/
structure Books where
  follower : SelectionFollower
  filter : FilterSpec
  view : OrderedView
  selection : Selection
  viewport : Option Viewport
  pendingScroll : Option Int

/-- The books of a table. -/
def books (c : Controller) : Books :=
  ⟨c.follower, c.filter, c.view, c.selection, c.viewport, c.pendingScroll⟩

lemma books_eq_iff {c d : Controller} :
    c.books = d.books ↔ c.follower = d.follower ∧ c.filter = d.filter ∧ c.view = d.view ∧
      c.selection = d.selection ∧ c.viewport = d.viewport ∧ c.pendingScroll = d.pendingScroll :=
  Books.mk.injEq .. ▸ Iff.rfl

/-- In the step in which every handler ends, the books depend on the books and the extent. -/
lemma books_recompute {c d : Controller} (hbooks : c.books = d.books)
    (hextent : c.scrollExtent = d.scrollExtent) (trigger : Trigger) (forced : Option Int) :
    (c.recompute trigger forced).value.1.books = (d.recompute trigger forced).value.1.books := by
  obtain ⟨hfollower, hfilter, hview, hselection, hviewport, hpending⟩ := books_eq_iff.mp hbooks
  rw [books_eq_iff, recompute_viewport, recompute_viewport, hviewport, hextent]
  refine ⟨by simpa, by simpa, by simpa, by simpa, rfl, ?_⟩
  cases hv : d.viewport with
  | none =>
    rw [recompute_pendingScroll_of_none _ _ _ hv,
      recompute_pendingScroll_of_none _ _ _ (hviewport.trans hv), hpending]
  | some v =>
    rw [recompute_pendingScroll_of_some _ _ _ hv,
      recompute_pendingScroll_of_some _ _ _ (hviewport.trans hv), hpending, hextent]

/-- Two tables with the same settings and level rows, each of them measured or not, have the same
books. -/
structure Alike (settings : TableSettings) (c d : Controller) : Prop where
  left_arranged : ∃ told, Arranged settings told c
  right_arranged : ∃ told, Arranged settings told d
  left_level : c.metrics.IsLevel
  right_level : d.metrics.IsLevel
  books_eq : c.books = d.books

namespace Alike

variable {settings : TableSettings} {c d : Controller}

lemma view_eq (h : Alike settings c d) : c.view = d.view := (books_eq_iff.mp h.books_eq).2.2.1

/-- They have the same content. -/
lemma contentHeight_eq (h : Alike settings c d) : c.contentHeight = d.contentHeight := by
  obtain ⟨told, hc⟩ := h.left_arranged
  obtain ⟨told', hd⟩ := h.right_arranged
  rw [contentHeight_level hc h.left_level, contentHeight_level hd h.right_level, h.view_eq]

/-- They have the same extent. -/
lemma scrollExtent_eq (h : Alike settings c d) : c.scrollExtent = d.scrollExtent := by
  obtain ⟨told, hc⟩ := h.left_arranged
  obtain ⟨told', hd⟩ := h.right_arranged
  rw [scrollExtent, scrollExtent, h.contentHeight_eq, hc.headerHeight_eq, hd.headerHeight_eq]

/-- Their rows lie at the same offsets and have the same heights. -/
lemma rowSpan_eq (h : Alike settings c d) {i : Nat} (hi : i ≤ c.view.len) :
    c.rowSpan i = d.rowSpan i := by
  obtain ⟨told, hc⟩ := h.left_arranged
  obtain ⟨told', hd⟩ := h.right_arranged
  rw [rowSpan_level hc h.left_level hi, rowSpan_level hd h.right_level (h.view_eq ▸ hi)]

/-- They have the same row at every offset. -/
lemma indexAtOffset_eq (h : Alike settings c d) (offset : Nat) :
    c.indexAtOffset offset = d.indexAtOffset offset := by
  obtain ⟨told, hc⟩ := h.left_arranged
  obtain ⟨told', hd⟩ := h.right_arranged
  rw [indexAtOffset_level hc h.left_level, indexAtOffset_level hd h.right_level, h.view_eq]

/-- They are at the bottom at the same time. -/
lemma atBottom_eq (h : Alike settings c d) : c.atBottom = d.atBottom := by
  obtain ⟨told, hc⟩ := h.left_arranged
  obtain ⟨told', hd⟩ := h.right_arranged
  obtain ⟨-, -, -, -, hviewport, -⟩ := books_eq_iff.mp h.books_eq
  rw [atBottom, atBottom, hviewport, h.scrollExtent_eq, hc.anchor_eq, hd.anchor_eq]

/-- They remember the same of the bottom before a change. -/
lemma captureAnchor_eq (h : Alike settings c d) : c.captureAnchor = d.captureAnchor := by
  obtain ⟨told, hc⟩ := h.left_arranged
  obtain ⟨told', hd⟩ := h.right_arranged
  obtain ⟨-, -, -, -, hviewport, -⟩ := books_eq_iff.mp h.books_eq
  rw [captureAnchor, captureAnchor, hviewport, h.scrollExtent_eq, hc.anchor_eq, hd.anchor_eq]

/-- They are brought back to the bottom at the same offset. -/
lemma restoredTop_eq (h : Alike settings c d) (captured : Option (BottomAnchor × Nat)) :
    c.restoredTop captured = d.restoredTop captured := by
  obtain ⟨-, -, -, -, hviewport, -⟩ := books_eq_iff.mp h.books_eq
  simp only [restoredTop, hviewport, h.scrollExtent_eq]

/-- They follow a selection to the same offset. -/
lemma follow_eq (h : Alike settings c d) :
    c.follow.1.books = d.follow.1.books ∧ c.follow.2 = d.follow.2 := by
  obtain ⟨hfollower, hfilter, hview, hselection, hviewport, hpending⟩ := books_eq_iff.mp h.books_eq
  -- only the spans of rows that the view shows are looked at
  have hspan : ∀ i, d.selection.only.bind d.view.indexOf = some i → c.rowSpan i = d.rowSpan i := by
    intro i hindex
    obtain ⟨id, -, hindex⟩ := Option.bind_eq_some_iff.mp hindex
    obtain ⟨told, hd⟩ := h.right_arranged
    have hi : i < d.view.len := by
      rw [hd.view_eq] at hindex ⊢
      exact OrderedView.lt_len_of_indexOf_derive hindex
    apply h.rowSpan_eq
    rw [hview]
    exact hi.le
  have hfollow : ∀ v, c.follower.follow c.selection c.view v c.rowSpan =
      d.follower.follow d.selection d.view v d.rowSpan := by
    intro v
    rw [hfollower, hselection, hview]
    unfold SelectionFollower.follow
    cases hindex : d.selection.only.bind d.view.indexOf with
    | none => rfl
    | some i => simp only [Option.bind_some, hspan i hindex]
  unfold Controller.follow
  cases hv : d.viewport with
  | none =>
    simp only [hviewport.trans hv]
    exact ⟨h.books_eq, trivial⟩
  | some v =>
    simp only [hviewport.trans hv, hfollow v, books_eq_iff]
    exact ⟨⟨trivial, hfilter, hview, hselection, trivial, hpending⟩, trivial⟩

end Alike

/-! ## One call -/

/-- The call measures the rows anew. -/
def Call.measures : Call → Bool
  | .setHeightOverrides _ => true
  | _ => false

variable {settings : TableSettings} {c d : Controller}

/-- After the step that follows a changed selection the books are the same again. -/
lemma Alike.books_selectionChanged (h : Alike settings c d) :
    c.selectionChanged.value.1.books = d.selectionChanged.value.1.books := by
  obtain ⟨hbooks, hforced⟩ := h.follow_eq
  have hextent : c.follow.1.scrollExtent = d.follow.1.scrollExtent := by
    have hcontent : ∀ e : Controller, e.follow.1.contentHeight = e.contentHeight := by
      intro e
      rw [follow_frame]
      rfl
    have hextents := h.scrollExtent_eq
    unfold scrollExtent at hextents ⊢
    rwa [follow_headerHeight, follow_headerHeight, hcontent, hcontent]
  rw [value_selectionChanged, value_selectionChanged, hforced]
  exact books_recompute hbooks hextent ..

/-- The same change of the selection keeps two tables alike. -/
lemma Alike.withSelection (h : Alike settings c d) {chosen chosen' : Selection}
    (hchosen : chosen = chosen') :
    Alike settings { c with selection := chosen } { d with selection := chosen' } := by
  obtain ⟨⟨told, hc⟩, ⟨told', hd⟩, hlevel, hlevel', hbooks⟩ := h
  obtain ⟨hfollower, hfilter, hview, -, hviewport, hpending⟩ := books_eq_iff.mp hbooks
  exact ⟨⟨told, { hc with }⟩, ⟨told', { hd with }⟩, hlevel, hlevel',
    books_eq_iff.mpr ⟨hfollower, hfilter, hview, hchosen, hviewport, hpending⟩⟩

/-- Another captured sequence keeps two tables alike. -/
lemma Alike.withFlows (h : Alike settings c d) (flows : Array Flow) :
    Alike settings (c.withFlows flows) (d.withFlows flows) := by
  obtain ⟨⟨told, hc⟩, ⟨told', hd⟩, hlevel, hlevel', hbooks⟩ := h
  obtain ⟨hfollower, hfilter, -, hselection, hviewport, hpending⟩ := books_eq_iff.mp hbooks
  refine ⟨⟨_, hc.withFlows flows⟩, ⟨_, hd.withFlows flows⟩, hlevel, hlevel', ?_⟩
  refine books_eq_iff.mpr ⟨hfollower, hfilter, ?_, ?_, hviewport, hpending⟩
  · exact congrArg (OrderedView.derive flows) hfilter
  · exact congrArg (Selection.retain · _) hselection

/-- Another filter keeps two tables alike. -/
lemma Alike.withFilter (h : Alike settings c d) (filter : FilterSpec) (flows : Array Flow) :
    Alike settings (c.withFilter filter flows) (d.withFilter filter flows) := by
  obtain ⟨⟨told, hc⟩, ⟨told', hd⟩, hlevel, hlevel', hbooks⟩ := h
  obtain ⟨hfollower, -, -, hselection, hviewport, hpending⟩ := books_eq_iff.mp hbooks
  exact ⟨⟨_, hc.withFilter filter flows⟩, ⟨_, hd.withFilter filter flows⟩, hlevel, hlevel',
    books_eq_iff.mpr ⟨hfollower, rfl, rfl, hselection, hviewport, hpending⟩⟩

/-- Another viewport keeps two tables alike. -/
lemma Alike.withViewport (h : Alike settings c d) (v : Viewport) :
    Alike settings (c.withViewport v) (d.withViewport v) := by
  obtain ⟨⟨told, hc⟩, ⟨told', hd⟩, hlevel, hlevel', hbooks⟩ := h
  obtain ⟨hfollower, hfilter, hview, hselection, -, hpending⟩ := books_eq_iff.mp hbooks
  exact ⟨⟨told, { hc with }⟩, ⟨told', { hd with }⟩, hlevel, hlevel',
    books_eq_iff.mpr ⟨hfollower, hfilter, hview, hselection, rfl, hpending⟩⟩

/-- Another queued scroll keeps two tables alike. -/
lemma Alike.withPendingScroll (h : Alike settings c d) (pendingScroll : Option Int) :
    Alike settings { c with pendingScroll } { d with pendingScroll } := by
  obtain ⟨⟨told, hc⟩, ⟨told', hd⟩, hlevel, hlevel', hbooks⟩ := h
  obtain ⟨hfollower, hfilter, hview, hselection, hviewport, -⟩ := books_eq_iff.mp hbooks
  exact ⟨⟨told, { hc with }⟩, ⟨told', { hd with }⟩, hlevel, hlevel',
    books_eq_iff.mpr ⟨hfollower, hfilter, hview, hselection, hviewport, rfl⟩⟩

/-- After a scroll the books are the same again. -/
lemma Alike.books_onScroll (h : Alike settings c d) (top : Int) :
    (c.onScroll top).value.1.books = (d.onScroll top).value.1.books := by
  obtain ⟨-, -, -, -, hviewport, -⟩ := books_eq_iff.mp h.books_eq
  have hmoved := h.withViewport ⟨top, (d.viewport.map Viewport.height).getD 0⟩
  rw [value_onScroll, value_onScroll, hviewport]
  exact books_recompute hmoved.books_eq hmoved.scrollExtent_eq ..

/-- Two tables that are alike have the same books after every call that does not measure the rows
anew. -/
lemma Alike.books_step (h : Alike settings c d) {call : Call} (hcall : call.measures = false) :
    (c.step call).books = (d.step call).books := by
  obtain ⟨hfollower, hfilter, hview, hselection, hviewport, hpending⟩ := books_eq_iff.mp h.books_eq
  unfold step stepLogged
  cases call with
  | scroll top => exact h.books_onScroll top
  | scrollBy delta =>
    have htop : c.viewportTop = d.viewportTop := by rw [viewportTop, viewportTop, hviewport]
    rw [value_scrollBy, value_scrollBy, htop]
    exact (h.withPendingScroll _).books_onScroll _
  | resize height =>
    have hsized := h.withViewport ⟨(d.viewport.map Viewport.top).getD 0, height⟩
    rw [value_onResize, value_onResize, hviewport]
    exact books_recompute hsized.books_eq hsized.scrollExtent_eq ..
  | dataChanged flows =>
    have hchanged := h.withFlows flows
    rw [value_onDataChanged, value_onDataChanged, h.captureAnchor_eq, hchanged.restoredTop_eq]
    exact books_recompute hchanged.books_eq hchanged.scrollExtent_eq ..
  | setFilter filter flows =>
    by_cases hsame : filter = d.filter
    · rw [hsame, value_setFilter_self, ← hfilter, value_setFilter_self]
      exact h.books_eq
    · have hchanged := h.withFilter filter flows
      rw [c.value_setFilter (hfilter ▸ hsame), d.value_setFilter hsame, h.captureAnchor_eq,
        hchanged.restoredTop_eq]
      exact books_recompute hchanged.books_eq hchanged.scrollExtent_eq ..
  | setSelection selection => exact (h.withSelection rfl).books_selectionChanged
  | selectRelative shift =>
    have hchosen : c.selection.selectRelative c.view shift =
        d.selection.selectRelative d.view shift := by rw [hselection, hview]
    exact (h.withSelection hchosen).books_selectionChanged
  | clearSelection =>
    have hchosen : c.selection.clear = d.selection.clear := by rw [hselection]
    exact (h.withSelection hchosen).books_selectionChanged
  | setHeightOverrides overrides => cases hcall
  | takeScrollRequest =>
    exact books_eq_iff.mpr ⟨hfollower, hfilter, hview, hselection, hviewport, rfl⟩
  | editSelection edit =>
    exact books_eq_iff.mpr
      ⟨hfollower, hfilter, hview, congrArg edit hselection, hviewport, hpending⟩

/-! ## A run -/

/-- Calls that do not measure the rows leave the overrides as they were told before. -/
lemma overrides_foldl_after {calls : List Call} (hcalls : ∀ call ∈ calls, call.measures = false)
    (told : Contents) : (calls.foldl Contents.after told).overrides = told.overrides := by
  induction calls generalizing told with
  | nil => rfl
  | cons call calls ih =>
    rw [List.forall_mem_cons] at hcalls
    rw [List.foldl_cons, ih hcalls.2]
    cases call with
    | setHeightOverrides overrides => cases hcalls.1
    | setFilter filter flows =>
      simp only [Contents.after]
      split <;> rfl
    | _ => rfl

/-- A table that has been told level heights has level rows. -/
lemma isLevel_run {calls : List Call}
    (h : ∀ height ∈ (Contents.ofCalls calls).overrides,
      height = 0 ∨ height = settings.rowHeight.lines) :
    ((ofSettings settings).run calls).metrics.IsLevel := by
  rw [(coherent_run settings calls).metrics_eq]
  exact RowMetrics.isLevel_of_overrides h

/-- A table without measured rows and one that has first been told level heights stay alike. -/
lemma alike_run {overrides : Array Nat} {calls : List Call}
    (hlevel : ∀ height ∈ overrides, height = 0 ∨ height = settings.rowHeight.lines)
    (hcalls : ∀ call ∈ calls, call.measures = false) :
    Alike settings ((ofSettings settings).run calls)
      ((ofSettings settings).run (.setHeightOverrides overrides :: calls)) := by
  -- whatever the books are, both tables are arranged and their rows level
  have halike : ∀ calls, (∀ call ∈ calls, call.measures = false) →
      ((ofSettings settings).run calls).books =
        ((ofSettings settings).run (.setHeightOverrides overrides :: calls)).books →
      Alike settings ((ofSettings settings).run calls)
        ((ofSettings settings).run (.setHeightOverrides overrides :: calls)) := by
    intro calls hcalls hbooks
    refine ⟨⟨_, (coherent_run settings calls).toArranged⟩,
      ⟨_, (coherent_run settings _).toArranged⟩, isLevel_run ?_, isLevel_run ?_, hbooks⟩
    · rw [Contents.ofCalls, overrides_foldl_after hcalls]
      simp [Contents.initial]
    · rwa [Contents.ofCalls, List.foldl_cons, overrides_foldl_after hcalls]
  refine halike calls hcalls ?_
  induction calls using List.reverseRecOn with
  | nil => rfl
  | append_singleton calls call ih =>
    obtain ⟨hbefore, hcall⟩ := List.forall_mem_append.mp hcalls
    have hstep := (halike calls hbefore (ih hbefore)).books_step (hcall call List.mem_cons_self)
    rwa [run_append, run_cons, run_nil, ← List.cons_append, run_append, run_cons, run_nil]

/-- **Level rows.**  Of two tables with the same settings one is first told measured heights that
are all the uniform one, and then both get the same calls, none of which measures rows anew.  The
second table keeps a height index and the first one does not; yet both have the same filter, view,
selection, viewport and queued scroll, the same content and extent, are at the bottom at the same
time, and have their rows at the same offsets. -/
theorem level_rows_kept_as_uniform (settings : TableSettings) (overrides : Array Nat)
    (calls : List Call) (hmeasured : overrides ≠ #[])
    (hlevel : ∀ height ∈ overrides, height = 0 ∨ height = settings.rowHeight.lines)
    (hcalls : ∀ call ∈ calls, call.measures = false) :
    let uniform := (ofSettings settings).run calls
    let measured := ((ofSettings settings).step (.setHeightOverrides overrides)).run calls
    (uniform.heights = none ∧ measured.heights ≠ none) ∧
      (uniform.filter = measured.filter ∧ uniform.view = measured.view ∧
        uniform.selection = measured.selection ∧ uniform.viewport = measured.viewport ∧
        uniform.pendingScroll = measured.pendingScroll) ∧
      (uniform.contentHeight = measured.contentHeight ∧
        uniform.scrollExtent = measured.scrollExtent ∧ uniform.atBottom = measured.atBottom) ∧
      (∀ i ≤ uniform.view.len, uniform.rowOffset i = measured.rowOffset i ∧
        uniform.rowHeightOf i = measured.rowHeightOf i) ∧
      ∀ offset, uniform.indexAtOffset offset = measured.indexAtOffset offset := by
  intro uniform measured
  have halike : Alike settings uniform measured := alike_run hlevel hcalls
  have huniform : Coherent settings (.ofCalls calls) uniform := coherent_run settings calls
  have hindexed : Coherent settings (.ofCalls (.setHeightOverrides overrides :: calls)) measured :=
    coherent_run settings _
  obtain ⟨-, hfilter, hview, hselection, hviewport, hpending⟩ := books_eq_iff.mp halike.books_eq
  refine ⟨⟨?_, ?_⟩, ⟨hfilter, hview, hselection, hviewport, hpending⟩,
    ⟨halike.contentHeight_eq, halike.scrollExtent_eq, halike.atBottom_eq⟩, fun i hi => ?_,
    halike.indexAtOffset_eq⟩
  · rw [huniform.heights_eq, RowMetrics.heightIndex_eq_none_iff, huniform.metrics_eq,
      Contents.ofCalls, overrides_foldl_after hcalls]
    rfl
  · rw [hindexed.heights_eq, ne_eq, RowMetrics.heightIndex_eq_none_iff, hindexed.metrics_eq,
      Contents.ofCalls, List.foldl_cons, overrides_foldl_after hcalls]
    exact fun hempty => hmeasured (Array.isEmpty_iff.mp hempty)
  · have hspan := halike.rowSpan_eq hi
    rw [huniform.rowSpan_eq, hindexed.rowSpan_eq, Prod.mk.injEq] at hspan
    exact hspan

/-- Six rows of three lines below a header, scrolled by four lines.  The row at a line is the same
with and without an index; only the windows differ. -/
theorem level_rows_kept_as_uniform_scrolled :
    let settings : TableSettings := ⟨⟨3, by decide⟩, 2, 1, 0⟩
    let overrides : Array Nat := #[0, 3]
    let calls : List Call := [.resize 7, .dataChanged (Contents.connections 6), .scroll 4]
    let uniform := (ofSettings settings).run calls
    let measured := ((ofSettings settings).step (.setHeightOverrides overrides)).run calls
    (overrides ≠ #[] ∧ (∀ height ∈ overrides, height = 0 ∨ height = settings.rowHeight.lines) ∧
      ∀ call ∈ calls, call.measures = false) ∧
    measured.viewport = some ⟨4, 7⟩ ∧ measured.scrollExtent = 20 ∧ measured.rowOffset 6 = 18 ∧
      measured.indexAtOffset 5 = some 1 ∧ uniform.window ≠ measured.window := by
  intro settings overrides calls uniform measured
  have hmeasured : overrides ≠ #[] := by decide
  have hlevel : ∀ height ∈ overrides, height = 0 ∨ height = settings.rowHeight.lines := by decide
  have hcalls : ∀ call ∈ calls, call.measures = false := by simp [calls, Call.measures]
  obtain ⟨-, ⟨-, -, -, hviewport, -⟩, ⟨-, hextent, -⟩, hrows, hhit⟩ :=
    level_rows_kept_as_uniform settings overrides calls hmeasured hlevel hcalls
  have hlen : 6 ≤ uniform.view.len := by decide +kernel
  refine ⟨⟨hmeasured, hlevel, hcalls⟩, hviewport.symm.trans ?_, hextent.symm.trans ?_,
    (hrows 6 hlen).1.symm.trans ?_, (hhit 5).symm.trans ?_, ?_⟩
  all_goals decide +kernel

end Controller

end FlowWatch
