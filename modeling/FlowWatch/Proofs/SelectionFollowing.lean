import Mathlib
import FlowWatch.Proofs.DerivedView
import FlowWatch.Proofs.RowGeometry
import FlowWatch.Proofs.SelectionVisibility

/-!
# Which selections are followed

A flow that a call makes the only selected one is scrolled into view, unless it is the one that the
follower remembers.  What the follower remembers is the only selected flow at the last call that set
the selection of the measured table (`followed_eq_some_iff`).  Between two such calls the selection
itself may change, since new data forget the flows that have gone; the memory of the follower does
not change with it.

So there is one way in which a new selection is not followed: the flow was followed before, it has
dropped out of the captured sequence, and no other selection was made since (`Dropped`).  In every
other case the scroll that shows the row survives the clamping into the extent, and the window found
afterwards holds the row.
-/

namespace FlowWatch

/-- A scroll that shows a row still shows it after it has been clamped into an extent in which the
row lies. -/
lemma shown_clampScrollTop {top : Int} {rowTop rowEnd content height : Nat}
    (htop : top < rowEnd) (hstop : (rowTop : Int) ≤ top ∨ (rowEnd : Int) ≤ top + height)
    (hpos : 0 < rowEnd) (hend : rowEnd ≤ content) (hfit : (content : Int) ≤ Offset.highest) :
    clampScrollTop top content height < rowEnd ∧
      ((rowTop : Int) ≤ clampScrollTop top content height ∨
        (rowEnd : Int) ≤ clampScrollTop top content height + height) := by
  have hmax : maxScrollTop content height = (content - height : Nat) :=
    Offset.ofHeight_eq (by omega)
  rw [clampScrollTop, hmax]
  omega

/-- A flow is the only selected one exactly if the selected flows are that one. -/
lemma Selection.only_eq_some_iff {s : Selection} {id : FlowId} :
    s.only = some id ↔ s.selected = [id] := by
  unfold only
  split
  · rename_i shown hselected
    rw [hselected, List.singleton_inj, Option.some_inj]
  · rename_i hother
    exact ⟨nofun, fun hselected => absurd hselected (hother id)⟩

namespace Controller

/-! ## What is followed, and what drops out -/

/-- The call replaces or moves the selection. -/
def Call.selects : Call → Bool
  | .setSelection _ => true
  | .selectRelative _ => true
  | .clearSelection => true
  | _ => false

/-- After the call the flow is no longer in the captured sequence. -/
def Call.Drops (call : Call) (id : FlowId) : Prop :=
  ∃ flows : Array Flow, call = .dataChanged flows ∧ ∀ flow ∈ flows, flow.id ≠ id

/-- The flow was the only selected one when the selection of the measured table was last replaced or
moved, by the call between `before` and `after`. -/
def FollowedAt (settings : TableSettings) (before : List Call) (call : Call) (after : List Call)
    (id : FlowId) : Prop :=
  call.selects = true ∧ (∀ later ∈ after, later.selects = false) ∧
    ((ofSettings settings).run before).viewport.isSome = true ∧
    ((ofSettings settings).run (before ++ [call])).selection.only = some id

/-- The flow was followed, no other selection was made since, and it has dropped out of the captured
sequence. -/
def Dropped (settings : TableSettings) (calls : List Call) (id : FlowId) : Prop :=
  ∃ before call after, calls = before ++ call :: after ∧
    FollowedAt settings before call after id ∧ ∃ later ∈ after, later.Drops id

/-- A flow that stays in the captured sequence stays the only selected one until the selection is
changed. -/
lemma only_run_of_kept {c : Controller} {calls : List Call} {id : FlowId}
    (honly : c.selection.only = some id) (hselects : ∀ call ∈ calls, call.selects = false)
    (hedit : ∀ edit, .editSelection edit ∉ calls) (hkept : ∀ call ∈ calls, ¬ call.Drops id) :
    (c.run calls).selection.only = some id := by
  induction calls generalizing c with
  | nil => exact honly
  | cons call calls ih =>
    rw [List.forall_mem_cons] at hselects hkept
    refine ih ?_ hselects.2 (fun edit hmem => hedit edit (List.mem_cons_of_mem _ hmem)) hkept.2
    rw [step_selection]
    cases call with
    | dataChanged flows =>
      have hthere : (flows.any fun f => f.id == id) = true := by
        by_contra hgone
        refine hkept.1 ⟨flows, rfl, fun flow hmem hid => hgone ?_⟩
        exact Array.any_eq_true'.mpr ⟨flow, hmem, beq_iff_eq.mpr hid⟩
      rw [Selection.only_eq_some_iff] at honly ⊢
      simp [Selection.retain, honly, hthere]
    | editSelection edit => exact absurd List.mem_cons_self (hedit edit)
    | setSelection selection => cases hselects.1
    | selectRelative shift => cases hselects.1
    | clearSelection => cases hselects.1
    | _ => exact honly

/-! ## What the follower remembers -/

variable {settings : TableSettings} {told : Contents} {c : Controller} {v : Viewport}

/-- Following a selection in a measured table, the follower remembers the only selected flow. -/
lemma follow_followed (c : Controller) :
    c.follow.1.follower.followed =
      if c.viewport.isSome = true then c.selection.only else c.follower.followed := by
  unfold follow
  cases hv : c.viewport with
  | none => rfl
  | some v =>
    simp only [SelectionFollower.follow, Option.isSome_some, if_true]
    split
    · exact Eq.symm ‹_›
    · rfl

/-- What a call does to the memory of the follower. -/
lemma step_followed (c : Controller) (call : Call) :
    (c.step call).follower.followed =
      if call.selects = true ∧ c.viewport.isSome = true then (c.step call).selection.only
      else c.follower.followed := by
  rw [step_selection, step_frame]
  cases call with
  | setFilter filter flows =>
    simp only [changed]
    split <;> rfl
  | setSelection selection => simpa [Call.selects, changed] using follow_followed _
  | selectRelative shift => simpa [Call.selects, changed] using follow_followed _
  | clearSelection => simpa [Call.selects, changed] using follow_followed _
  | _ => rfl

/-- A table that has been measured stays measured. -/
lemma isSome_viewport_run (h : c.viewport.isSome = true) (calls : List Call) :
    (c.run calls).viewport.isSome = true := by
  induction calls generalizing c with
  | nil => exact h
  | cons call calls ih => exact ih (c.isSome_viewport_step h call)

/-- A longer sequence is split at its last call or at an earlier one. -/
lemma exists_split_append_singleton {calls : List Call} {last : Call}
    {P : List Call → Call → List Call → Prop} :
    (∃ before call after, calls ++ [last] = before ++ call :: after ∧ P before call after) ↔
      P calls last [] ∨
        ∃ before call after, calls = before ++ call :: after ∧ P before call (after ++ [last]) := by
  constructor
  · rintro ⟨before, call, after, hcalls, hP⟩
    rcases List.eq_nil_or_concat' after with rfl | ⟨after, other, rfl⟩
    · obtain ⟨rfl, hlast⟩ := List.append_inj' hcalls rfl
      cases hlast
      exact Or.inl hP
    · have hsplit : calls ++ [last] = (before ++ call :: after) ++ [other] := by
        rw [hcalls, List.append_assoc, List.cons_append]
      obtain ⟨rfl, hlast⟩ := List.append_inj' hsplit rfl
      cases hlast
      exact Or.inr ⟨before, call, after, rfl, hP⟩
  · rintro (hP | ⟨before, call, after, rfl, hP⟩)
    · exact ⟨calls, last, [], rfl, hP⟩
    · exact ⟨before, call, after ++ [last], by simp, hP⟩

/-- A later call leaves it at that selection unless it makes another one. -/
lemma followedAt_append_singleton_iff {before after : List Call} {call last : Call} {id : FlowId} :
    FollowedAt settings before call (after ++ [last]) id ↔
      FollowedAt settings before call after id ∧ last.selects = false := by
  unfold FollowedAt
  simp only [List.forall_mem_append, List.forall_mem_singleton]
  tauto

/-- After any sequence of calls the follower remembers the flow that was the only selected one when
the selection of the measured table was last replaced or moved. -/
theorem followed_eq_some_iff (settings : TableSettings) (calls : List Call) (id : FlowId) :
    ((ofSettings settings).run calls).follower.followed = some id ↔
      ∃ before call after, calls = before ++ call :: after ∧
        FollowedAt settings before call after id := by
  induction calls using List.reverseRecOn with
  | nil =>
    refine iff_of_false nofun ?_
    rintro ⟨before, call, after, hcalls, -⟩
    simp at hcalls
  | append_singleton calls call ih =>
    have hrun : (ofSettings settings).run (calls ++ [call]) =
        ((ofSettings settings).run calls).step call := by
      rw [run_append, run_cons, run_nil]
    rw [exists_split_append_singleton, hrun, step_followed]
    simp only [followedAt_append_singleton_iff]
    cases hselects : call.selects with
    | false =>
      rw [if_neg (by simp), ih]
      simp [FollowedAt, hselects]
    | true =>
      have hlast : FollowedAt settings calls call [] id ↔
          ((ofSettings settings).run calls).viewport.isSome = true ∧
            (((ofSettings settings).run calls).step call).selection.only = some id := by
        simp [FollowedAt, hselects, hrun]
      rw [hlast]
      by_cases hmeasured : ((ofSettings settings).run calls).viewport.isSome = true
      · simp [hmeasured]
      · rw [if_neg (by simpa using hmeasured), ih]
        -- before the table is measured nothing has been followed
        refine iff_of_false ?_ (by simp [hmeasured])
        rintro ⟨before, earlier, after, rfl, -, -, hbefore, -⟩
        rw [run_append] at hmeasured
        exact hmeasured (isSome_viewport_run hbefore _)

/-! ## The row of a followed selection -/

/-- A row of a coherent table that ends below the top, and begins above it or ends above the bottom
edge, is in the committed window. -/
lemma window_contains_of_shown (h : Coherent settings told c) (hv : c.viewport = some v)
    (hover : 1 ≤ settings.overscan) (hheight : 0 < v.height)
    (hfit : (c.scrollExtent : Int) ≤ Offset.highest) {i : Nat} (hi : i < c.view.len)
    (htop : v.top < (c.rowOffset i + c.rowHeightOf i : Nat))
    (hstop : (c.rowOffset i : Int) ≤ v.top ∨
      ((c.rowOffset i + c.rowHeightOf i : Nat) : Int) ≤ v.top + v.height) :
    c.window.contains i = true := by
  have hcontent : c.contentHeight ≤ c.scrollExtent := Nat.le_add_left ..
  have hend := h.rowOffset_add_rowHeightOf_le hi
  rw [h.window_eq hv]
  cases hheights : c.heights with
  | none =>
    rw [h.rowOffset_uniform hheights, h.rowHeightOf_uniform hheights, ← Nat.succ_mul]
      at htop hstop
    rw [h.contentHeight_uniform hheights] at hcontent
    rw [c.rule.compute_none (Nat.zero_lt_of_lt hi) hheight]
    refine c.rule.uniform_contains_of_shown ?_ hi hheight (by omega) htop hstop
    rwa [h.rule_eq]
  | some x =>
    have hx := h.indexes hheights
    have hlength : (c.metrics.heights c.view.len).length = c.view.len :=
      RowMetrics.length_heights ..
    have hsucc := h.offsetOf_succ_measured hheights hi
    have hoffset := h.rowOffset_measured hheights hi.le
    have hrow : 0 < c.rowHeightOf i := c.metrics.heightOf_pos i
    rw [← hlength, c.rule.compute_some hx (by omega) hheight]
    apply WindowCalculator.measured_contains_of_meets hx (by omega)
    · omega
    · omega
    · rwa [hsucc]
    · omega

lemma follow_viewport (c : Controller) : c.follow.1.viewport = c.viewport := by
  rw [follow_frame]

/-- Following does not change the extent. -/
lemma follow_scrollExtent (c : Controller) : c.follow.1.scrollExtent = c.scrollExtent := by
  have hcontent : c.follow.1.contentHeight = c.contentHeight := by
    rw [follow_frame]
    rfl
  rw [scrollExtent, scrollExtent, follow_headerHeight, hcontent]

/-- Beside the memory of the follower, the viewport, the queued scroll and what is committed, a
change of the selection leaves a table as it is. -/
lemma selectionChanged_frame (c : Controller) :
    c.selectionChanged.value.1 =
      { c with
        follower := c.selectionChanged.value.1.follower
        viewport := c.selectionChanged.value.1.viewport
        pendingScroll := c.selectionChanged.value.1.pendingScroll
        committed := c.selectionChanged.value.1.committed
        commits := c.selectionChanged.value.1.commits } := by
  rw [value_selectionChanged, recompute_frame, follow_frame]

/-- A flow that is newly the only selected one is in the window found for it. -/
lemma selectionChanged_contains (h : Coherent settings told c) (hv : c.viewport = some v)
    (hover : 1 ≤ settings.overscan) (hheader : c.headerHeight < v.height)
    (hfit : (c.scrollExtent : Int) ≤ Offset.highest) {id : FlowId} {i : Nat}
    (honly : c.selection.only = some id) (hnew : c.follower.followed ≠ some id)
    (hindex : c.view.indexOf id = some i) (hi : i < c.view.len) :
    c.selectionChanged.value.1.window.contains i = true := by
  have hnext : Coherent settings told c.selectionChanged.value.1 :=
    coherent_selectionChanged h.toArranged
  have hextent : c.scrollExtent = c.headerHeight + c.contentHeight := rfl
  have hrow : 0 < c.rowHeightOf i := c.metrics.heightOf_pos i
  have hend := h.rowOffset_add_rowHeightOf_le hi
  set shown := (scrollAdjustmentForRow (c.rowOffset i) (c.rowHeightOf i) c.headerHeight v).getD
    v.top with hshown
  have hforced : c.follow.2.getD v.top = shown := by
    rw [follow, hv]
    simp only [SelectionFollower.follow, honly, if_neg (Ne.symm hnew), Option.bind_some, hindex,
      h.rowSpan_eq]
    rfl
  have hviewport : c.selectionChanged.value.1.viewport =
      some (v.withTop (clampScrollTop shown c.scrollExtent v.height)) := by
    rw [value_selectionChanged, recompute_viewport, follow_viewport, hv, Option.map_some, hforced,
      follow_scrollExtent]
  obtain ⟨htop, hstop⟩ := scrollAdjustmentForRow_shows (c.rowOffset i) (c.rowHeightOf i)
    c.headerHeight v hrow hheader (by omega) hshown
  obtain ⟨htop', hstop'⟩ := shown_clampScrollTop htop hstop (by omega)
    (by omega : c.rowOffset i + c.rowHeightOf i ≤ c.scrollExtent) hfit
  have hsame : c.selectionChanged.value.1.rowOffset i = c.rowOffset i ∧
      c.selectionChanged.value.1.rowHeightOf i = c.rowHeightOf i ∧
      c.selectionChanged.value.1.view = c.view := by
    rw [selectionChanged_frame]
    exact ⟨rfl, rfl, rfl⟩
  obtain ⟨hoffset, hheight, hview⟩ := hsame
  apply window_contains_of_shown hnext hviewport hover
  · exact Nat.zero_lt_of_lt hheader
  · rwa [value_selectionChanged, recompute_scrollExtent, follow_scrollExtent]
  · rwa [hview]
  · rwa [hoffset, hheight]
  · rwa [hoffset, hheight]

/-- A flow that the follower remembers is not followed again. -/
lemma selectionChanged_window_of_followed (h : Coherent settings told c)
    (hv : c.viewport = some v) (hfollowed : c.selection.only = c.follower.followed) :
    c.selectionChanged.value.1.window = c.window := by
  have hnext : Coherent settings told c.selectionChanged.value.1 :=
    coherent_selectionChanged h.toArranged
  have hforced : c.follow.2 = none := by
    rw [follow, hv]
    simp only [SelectionFollower.follow, if_pos hfollowed]
  obtain ⟨hlo, hhi⟩ := h.top_mem v hv
  have hviewport : c.selectionChanged.value.1.viewport = some v := by
    rw [value_selectionChanged, recompute_viewport, hforced, follow_viewport, hv, Option.map_some,
      Option.getD_none, follow_scrollExtent, clampScrollTop_eq_self hlo hhi]
    rfl
  rw [hnext.window_eq hviewport, h.window_eq hv, selectionChanged_frame]

/-- A call that replaces or moves the selection ends in the step after a change of it. -/
lemma exists_step_eq_selectionChanged (c : Controller) {call : Call} (hcall : call.selects = true) :
    ∃ selection, c.step call = ({ c with selection } : Controller).selectionChanged.value.1 := by
  cases call with
  | setSelection selection => exact ⟨_, rfl⟩
  | selectRelative shift => exact ⟨_, rfl⟩
  | clearSelection => exact ⟨_, rfl⟩
  | _ => cases hcall

/-! ## New selections -/

/-- If the selection is only changed by calls that follow it, a flow that is remembered without
being the only selected one has dropped out. -/
lemma dropped_iff {calls : List Call} (hedit : ∀ edit, .editSelection edit ∉ calls) {id : FlowId}
    (hother : ((ofSettings settings).run calls).selection.only ≠ some id) :
    Dropped settings calls id ↔ ((ofSettings settings).run calls).follower.followed = some id := by
  rw [followed_eq_some_iff]
  constructor
  · rintro ⟨before, call, after, hcalls, hfollowed, -⟩
    exact ⟨before, call, after, hcalls, hfollowed⟩
  · rintro ⟨before, call, after, rfl, hfollowed⟩
    refine ⟨before, call, after, rfl, hfollowed, ?_⟩
    by_contra hkept
    push Not at hkept
    obtain ⟨-, hafter, -, honly⟩ := hfollowed
    apply hother
    rw [List.append_cons, run_append]
    refine only_run_of_kept honly hafter (fun edit hmem => hedit edit ?_) hkept
    exact List.mem_append_right _ (List.mem_cons_of_mem _ hmem)

/-- **New selections.**  In a measured table whose selection is only changed by calls that follow
it, with at least one row kept beyond each edge, a flow of the view that a call makes the only
selected one is in the committed window afterwards, unless it has dropped out since it was followed
and the window did not hold it before. -/
theorem new_selection_in_window_iff (settings : TableSettings) (calls : List Call) (call : Call)
    (id : FlowId) (i : Nat) (v : Viewport) (hedit : ∀ edit, .editSelection edit ∉ calls)
    (hcall : call.selects = true) (hover : 1 ≤ settings.overscan)
    (hv : ((ofSettings settings).run calls).viewport = some v)
    (hheader : settings.headerHeight < v.height)
    (hfit : (((ofSettings settings).run calls).scrollExtent : Int) ≤ Offset.highest)
    (hbefore : ((ofSettings settings).run calls).selection.only ≠ some id)
    (hafter : (((ofSettings settings).run calls).step call).selection.only = some id)
    (hindex : (((ofSettings settings).run calls).step call).view.indexOf id = some i) :
    let c := (ofSettings settings).run calls
    (c.step call).window.contains i = true ↔
      (Dropped settings calls id → c.window.contains i = true) := by
  intro c
  have h : Coherent settings (.ofCalls calls) c := coherent_run settings calls
  obtain ⟨selection, hstep⟩ := exists_step_eq_selectionChanged c hcall
  have hchosen : Coherent settings (.ofCalls calls) ({ c with selection } : Controller) :=
    { h with }
  rw [hstep] at hafter hindex ⊢
  rw [selectionChanged_frame] at hafter hindex
  rw [dropped_iff hedit hbefore]
  by_cases hremembered : c.follower.followed = some id
  · have hwindow : ({ c with selection } : Controller).selectionChanged.value.1.window = c.window :=
      selectionChanged_window_of_followed hchosen hv (hafter.trans hremembered.symm)
    rw [hwindow]
    exact ⟨fun hin _ => hin, fun hin => hin hremembered⟩
  · have hi : i < c.view.len := by
      rw [h.view_eq] at hindex ⊢
      exact (Array.getElem?_eq_some_iff.mp (OrderedView.idAt_of_indexOf_derive hindex)).1
    refine iff_of_true ?_ (fun hdropped => absurd hdropped hremembered)
    refine selectionChanged_contains hchosen hv hover ?_ hfit hafter hremembered hindex hi
    rwa [hchosen.headerHeight_eq]

/-- The first of six rows is selected in a viewport of two lines, drops out with the others, and
comes back with them. -/
def firstRowReturns : List Call :=
  [.resize 2, .dataChanged (Contents.connections 6), .setSelection ⟨[.sequential "tcp" 0], []⟩,
    .dataChanged #[], .dataChanged (Contents.connections 6)]

/-- After a selection of nothing, the row that has come back is followed when it is selected. -/
theorem new_selection_in_window_after_clearing :
    let c := (ofSettings .default).run (firstRowReturns ++ [.clearSelection])
    let next := c.step (.setSelection ⟨[.sequential "tcp" 0], []⟩)
    (c.viewport = some ⟨4, 2⟩ ∧ c.scrollExtent = 6 ∧ c.selection.only = none ∧
      next.selection.only = some (.sequential "tcp" 0) ∧
      next.view.indexOf (.sequential "tcp" 0) = some 0) ∧
    c.window.contains 0 = false ∧ next.window.contains 0 = true := by
  have hedit : ∀ edit, .editSelection edit ∉ firstRowReturns ++ [.clearSelection] := by
    simp [firstRowReturns]
  have hstate : ((ofSettings .default).run (firstRowReturns ++ [.clearSelection])).viewport =
        some ⟨4, 2⟩ ∧
      ((ofSettings .default).run (firstRowReturns ++ [.clearSelection])).scrollExtent = 6 ∧
      ((ofSettings .default).run (firstRowReturns ++ [.clearSelection])).selection.only = none ∧
      ((ofSettings .default).run (firstRowReturns ++ [.clearSelection])).follower.followed =
        none := by
    refine ⟨?_, ?_, ?_, ?_⟩
    all_goals cbv
  obtain ⟨hv, hextent, hbefore, hforgotten⟩ := hstate
  have hother : ((ofSettings .default).run (firstRowReturns ++ [.clearSelection])).selection.only ≠
      some (.sequential "tcp" 0) := by
    simp [hbefore]
  have hfit : (((ofSettings .default).run
      (firstRowReturns ++ [.clearSelection])).scrollExtent : Int) ≤ Offset.highest := by
    rw [hextent]
    decide
  have hafter : (((ofSettings .default).run (firstRowReturns ++ [.clearSelection])).step
      (.setSelection ⟨[.sequential "tcp" 0], []⟩)).selection.only = some (.sequential "tcp" 0) := by
    rw [step_selection]
    rfl
  have hindex : (((ofSettings .default).run (firstRowReturns ++ [.clearSelection])).step
      (.setSelection ⟨[.sequential "tcp" 0], []⟩)).view.indexOf (.sequential "tcp" 0) = some 0 := by
    cbv
  refine ⟨⟨hv, hextent, hbefore, hafter, hindex⟩, by cbv, ?_⟩
  apply (new_selection_in_window_iff .default _ _ _ 0 ⟨4, 2⟩ hedit rfl le_rfl hv (by decide) hfit
    hother hafter hindex).mpr
  intro hdropped
  rw [dropped_iff hedit hother, hforgotten] at hdropped
  cases hdropped

/-- Without that selection of nothing it is selected again, but not followed: the window stays at
the end of the rows. -/
theorem reselected_row_not_followed :
    let c := (ofSettings .default).run firstRowReturns
    let next := c.step (.setSelection ⟨[.sequential "tcp" 0], []⟩)
    c.viewport = some ⟨4, 2⟩ ∧ c.selection.only = none ∧
      next.selection.only = some (.sequential "tcp" 0) ∧
      next.view.indexOf (.sequential "tcp" 0) = some 0 ∧ next.window.contains 0 = false := by
  refine ⟨?_, ?_, ?_, ?_, ?_⟩
  all_goals cbv

end Controller

end FlowWatch
