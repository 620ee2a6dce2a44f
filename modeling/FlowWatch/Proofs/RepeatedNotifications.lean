import Mathlib
import FlowWatch.Proofs.LiveTail
import FlowWatch.Proofs.SelectionFollowing

/-!
# Repeated notifications

A host may tell a table the same thing more than once: the offset it has scrolled to, its height,
the captured sequence, a filter, a selection, measured heights.  The second time nothing changes,
and the table answers that it has not committed anything.

A call that tells a coherent table what it holds already leaves it as it is: the contents are
derived to the same view and the same height index, an extent that has not grown asks for no bottom
(`restoredTop_self`), a selection that the follower remembers is not followed, and the step in which
every handler ends finds nothing to clamp or to commit (`recompute_self`).  After its first call the
table holds what the call tells.  The exception is a scroll beyond the extent.  The table does not
keep the offset it was told but the clamped one, so the second scroll moves the viewport away and is
clamped back, and that queues once more the request that the first one queued
(`recompute_withViewport`).
-/

namespace FlowWatch

/-- Forgetting twice the flows that no longer exist is forgetting them once. -/
lemma Selection.retain_retain (s : Selection) (exist : FlowId → Bool) :
    (s.retain exist).retain exist = s.retain exist := by
  simp [retain, List.filter_filter]

namespace Controller

/-- The call tells the table how things are, and not how far to move from where it is. -/
def Call.isNotification : Call → Bool
  | .scroll _ => true
  | .resize _ => true
  | .dataChanged _ => true
  | .setFilter _ _ => true
  | .setSelection _ => true
  | .clearSelection => true
  | .setHeightOverrides _ => true
  | _ => false

variable {settings : TableSettings} {told : Contents} {c : Controller} {v : Viewport}

/-! ## The step in which every handler ends -/

/-- A table that is moved to its own viewport stays as it is. -/
lemma withViewport_self (hv : c.viewport = some v) : c.withViewport v = c := by
  rw [withViewport, ← hv]

/-- A measured table that is moved to an offset which is clamped to its own commits nothing.  It
queues its own offset if the other one had to be clamped. -/
lemma recompute_withViewport (h : Coherent settings told c) (hv : c.viewport = some v) {top : Int}
    (htop : clampScrollTop top c.scrollExtent v.height = v.top) (trigger : Trigger) :
    ((c.withViewport ⟨top, v.height⟩).recompute trigger none).value =
      ({ c with pendingScroll := if top = v.top then c.pendingScroll else some v.top }, false) := by
  have hviewport : ((c.withViewport ⟨top, v.height⟩).settle none).viewport = c.viewport := by
    rw [settle_viewport, hv]
    exact congrArg (fun top => some (Viewport.mk top v.height)) htop
  have hqueued : ((c.withViewport ⟨top, v.height⟩).settle none).pendingScroll =
      if top = v.top then c.pendingScroll else some v.top := by
    have hasked : ((c.withViewport ⟨top, v.height⟩).settle none).pendingScroll =
        if v.top != top then some v.top else c.pendingScroll := by
      rw [← htop]
      rfl
    rw [hasked]
    by_cases hsame : top = v.top
    · rw [if_pos hsame, if_neg (by simpa using hsame.symm)]
    · rw [if_neg hsame, if_pos (by simpa using Ne.symm hsame)]
  have hsettle : (c.withViewport ⟨top, v.height⟩).settle none =
      { c with pendingScroll := if top = v.top then c.pendingScroll else some v.top } := by
    rw [settle_frame, hviewport, hqueued]
    rfl
  rw [value_recompute, hsettle]
  exact if_pos h.committed_eq.symm

/-- A coherent table that is left where it is commits nothing and queues nothing. -/
lemma recompute_self (h : Coherent settings told c) (trigger : Trigger) :
    (c.recompute trigger none).value = (c, false) := by
  cases hv : c.viewport with
  | none =>
    have hsettle : c.settle none = c := by
      rw [settle, hv]
    rw [value_recompute, hsettle]
    exact if_pos h.committed_eq.symm
  | some v =>
    obtain ⟨hlo, hhi⟩ := h.top_mem v hv
    have hstays := recompute_withViewport h hv (clampScrollTop_eq_self hlo hhi) trigger
    rwa [if_pos rfl, withViewport_self hv] at hstays

/-- An extent that has not grown asks for no bottom. -/
lemma restoredTop_self (c : Controller) : c.restoredTop c.captureAnchor = none := by
  cases hv : c.viewport with
  | none => simp [restoredTop, captureAnchor, ScrollAnchor.capture, hv]
  | some v =>
    rw [restoredTop_captureAnchor c hv hv]
    exact if_neg fun hgrown => lt_irrefl _ hgrown.2

/-! ## Calls that tell nothing new -/

/-- A selection that the follower remembers is not followed. -/
lemma follow_self (hfollowed : c.viewport.isSome = true → c.follower.followed = c.selection.only) :
    c.follow = (c, none) := by
  cases hv : c.viewport with
  | none => rw [follow, hv]
  | some v =>
    have honly := hfollowed (by rw [hv]; rfl)
    simp only [follow, hv, SelectionFollower.follow, honly, if_true]
    rw [← hv]

/-- A selection that the follower remembers changes nothing when it is made again. -/
lemma selectionChanged_self (h : Coherent settings told c)
    (hfollowed : c.viewport.isSome = true → c.follower.followed = c.selection.only) :
    c.selectionChanged.value = (c, false) := by
  rw [value_selectionChanged, follow_self hfollowed]
  exact recompute_self h _

/-- The selection changes nothing when it is made again. -/
lemma setSelection_self (h : Coherent settings told c)
    (hfollowed : c.viewport.isSome = true → c.follower.followed = c.selection.only) :
    (c.setSelection c.selection).value = (c, false) :=
  selectionChanged_self h hfollowed

/-- A selection of nothing changes nothing when it is cleared again. -/
lemma clearSelection_self (h : Coherent settings told c)
    (hfollowed : c.viewport.isSome = true → c.follower.followed = c.selection.only)
    (hclear : c.selection.clear = c.selection) : c.clearSelection.value = (c, false) := by
  rw [clearSelection, hclear]
  exact selectionChanged_self h hfollowed

/-- The height of the viewport changes nothing when it is told again. -/
lemma onResize_self (h : Coherent settings told c) (hv : c.viewport = some v) :
    (c.onResize v.height).value = (c, false) := by
  rw [value_onResize, hv]
  simp only [Option.map_some, Option.getD_some, withViewport_self hv]
  exact recompute_self h _

/-- The captured sequence leads to the view and the height index that are there already. -/
lemma Arranged.withFlows_self (h : Arranged settings told c)
    (hkept : (c.selection.retain fun id => told.flows.any fun f => f.id == id) = c.selection) :
    c.withFlows told.flows = c := by
  have hview : OrderedView.derive told.flows c.filter = c.view := by
    rw [h.filter_eq, h.view_eq]
  rw [Controller.withFlows, rebuildHeights, hkept, hview]
  simp only [← h.heights_eq]

/-- The captured sequence changes nothing when it is told again, if the selection is in it. -/
lemma onDataChanged_self (h : Coherent settings told c) {flows : Array Flow}
    (hflows : told.flows = flows)
    (hkept : (c.selection.retain fun id => flows.any fun f => f.id == id) = c.selection) :
    (c.onDataChanged flows).value = (c, false) := by
  subst hflows
  rw [value_onDataChanged, h.withFlows_self hkept, restoredTop_self]
  exact recompute_self h _

/-- The measured heights lead to the height index that is there already. -/
lemma Arranged.withOverrides_self (h : Arranged settings told c) :
    c.withOverrides told.overrides = c := by
  have hmetrics : (⟨c.metrics.rowHeight, told.overrides⟩ : RowMetrics) = c.metrics := by
    rw [h.metrics_eq]
  rw [Controller.withOverrides, rebuildHeights, hmetrics]
  simp only [← h.heights_eq]

/-- The measured heights change nothing when they are told again. -/
lemma setHeightOverrides_self (h : Coherent settings told c) {overrides : Array Nat}
    (hoverrides : told.overrides = overrides) :
    (c.setHeightOverrides overrides).value = (c, false) := by
  subst hoverrides
  rw [value_setHeightOverrides, h.withOverrides_self, restoredTop_self]
  exact recompute_self h _

/-! ## The second call -/

/-- A table that has been scrolled is at the clamped offset, and it has queued it if it is another
one than it was told. -/
lemma viewport_step_scroll (c : Controller) (top : Int) :
    ∃ v, (c.step (.scroll top)).viewport = some v ∧
      clampScrollTop top (c.step (.scroll top)).scrollExtent v.height = v.top ∧
      (top ≠ v.top → (c.step (.scroll top)).pendingScroll = some v.top) := by
  have hextent : (c.step (.scroll top)).scrollExtent = c.scrollExtent :=
    recompute_scrollExtent _ .scroll none
  refine ⟨⟨clampScrollTop top c.scrollExtent ((c.viewport.map Viewport.height).getD 0), _⟩,
    recompute_viewport _ .scroll none, congrArg (clampScrollTop top · _) hextent,
    fun hclamped => ?_⟩
  rw [step, stepLogged, value_onScroll, recompute_pendingScroll_of_some _ _ _ rfl]
  exact if_pos (bne_iff_ne.mpr hclamped.symm)

/-- The offset that a table has been scrolled to leaves it as it is when it is told again, whatever
is queued then, but that the clamped offset may be queued again. -/
lemma onScroll_again (h : Coherent settings told c) (hv : c.viewport = some v) {top : Int}
    (htop : clampScrollTop top c.scrollExtent v.height = v.top)
    (hqueued : top ≠ v.top → c.pendingScroll = some v.top) (queued : Option Int) :
    let again := { c with pendingScroll := queued }
    (again.onScroll top).value = (again, false) ∨
      c.pendingScroll = some c.viewportTop ∧ (again.onScroll top).value = (c, false) := by
  intro again
  have hagain : Coherent settings told again := { h with }
  have hscroll : (again.onScroll top).value =
      ({ again with pendingScroll := if top = v.top then queued else some v.top }, false) := by
    have hheight : (again.viewport.map Viewport.height).getD 0 = v.height := by
      simp only [again, hv, Option.map_some, Option.getD_some]
    rw [value_onScroll, hheight]
    exact recompute_withViewport hagain hv htop .scroll
  by_cases hsame : top = v.top
  · left
    rw [hscroll, if_pos hsame]
  · right
    have hthere : c.viewportTop = v.top := by
      simp only [viewportTop, hv, Option.map_some, Option.getD_some]
    rw [hscroll, if_neg hsame, hthere, ← hqueued hsame]
    exact ⟨rfl, rfl⟩

/-- What a call of the selection has told is remembered by the follower of a measured table. -/
lemma followed_step {call : Call} (hselects : call.selects = true)
    (hmeasured : (c.step call).viewport.isSome = true) :
    (c.step call).follower.followed = (c.step call).selection.only := by
  have hbefore : c.viewport.isSome = true := by
    have hheight := congrArg Option.isSome (c.map_height_step call)
    rw [Option.isSome_map, hmeasured] at hheight
    cases call with
    | setSelection selection => simpa using hheight.symm
    | selectRelative shift => simpa using hheight.symm
    | clearSelection => simpa using hheight.symm
    | _ => cases hselects
  rw [step_followed, if_pos ⟨hselects, hbefore⟩]

/-- The same notification for the second time commits nothing and leaves the table as it is,
whatever is queued then, but that it may queue again the offset that the first one has queued. -/
lemma stepLogged_again (h : Coherent settings told c) {call : Call}
    (hcall : call.isNotification = true) (queued : Option Int) :
    let first := c.step call
    let again := { first with pendingScroll := queued }
    (again.stepLogged call).value = (again, false) ∨
      first.pendingScroll = some first.viewportTop ∧
        (again.stepLogged call).value = (first, false) := by
  intro first again
  have hagain : Coherent settings (told.after call) again := { coherent_step h call with }
  have hselection : again.selection = first.selection := rfl
  cases call with
  | scroll top =>
    obtain ⟨v, hv, htop, hqueued⟩ := c.viewport_step_scroll top
    exact onScroll_again (coherent_step h (.scroll top)) hv htop hqueued queued
  | resize height =>
    left
    have hheight : first.viewport.map Viewport.height = some height :=
      c.map_height_step (.resize height)
    obtain ⟨v, hv, rfl⟩ := Option.map_eq_some_iff.mp hheight
    exact onResize_self hagain hv
  | dataChanged flows =>
    left
    have hkept : (again.selection.retain fun id => flows.any fun f => f.id == id) =
        again.selection := by
      rw [hselection, step_selection]
      exact Selection.retain_retain ..
    exact onDataChanged_self hagain rfl hkept
  | setFilter filter flows =>
    left
    have hfilter : again.filter = filter := by
      rw [hagain.filter_eq, Contents.after]
      split
      · exact Eq.symm ‹_›
      · rfl
    rw [stepLogged, ← hfilter]
    exact value_setFilter_self ..
  | setSelection selection =>
    left
    have hmade : again.selection = selection := c.step_selection (.setSelection selection)
    have hsame := setSelection_self hagain (followed_step rfl)
    rwa [hmade] at hsame
  | clearSelection =>
    left
    have hclear : again.selection.clear = again.selection := by
      rw [hselection, step_selection]
      rfl
    exact clearSelection_self hagain (followed_step rfl) hclear
  | setHeightOverrides overrides =>
    left
    exact setHeightOverrides_self hagain rfl
  | _ => cases hcall

/-- **Repeated notifications.**  After any sequence of calls, a notification that is made twice
leaves the table as the first one has left it, in every part of it, and the second one answers that
nothing was committed.  If the host has taken the queued scroll in between, the second one may queue
it again, and then it asks for the offset at which the table is. -/
theorem repeated_notification_changes_nothing (settings : TableSettings) (calls : List Call)
    (call : Call) (hcall : call.isNotification = true) :
    let first := ((ofSettings settings).run calls).step call
    let taken := first.takeScrollRequest.1
    (first.commitsOn call = false ∧ first.step call = first) ∧
      taken.commitsOn call = false ∧
        (taken.step call = taken ∨
          first.pendingScroll = some first.viewportTop ∧ taken.step call = first) := by
  intro first taken
  have h : Coherent settings _ ((ofSettings settings).run calls) := coherent_run settings calls
  have hfirst : (first.stepLogged call).value = (first, false) :=
    (stepLogged_again h hcall first.pendingScroll).elim id And.right
  have htaken : (taken.stepLogged call).value = (taken, false) ∨
      first.pendingScroll = some first.viewportTop ∧
        (taken.stepLogged call).value = (first, false) := stepLogged_again h hcall none
  rw [commitsOn, step, hfirst, commitsOn, step]
  refine ⟨⟨rfl, rfl⟩, ?_⟩
  rcases htaken with hsame | ⟨hqueued, hsame⟩
  · rw [hsame]
    exact ⟨rfl, Or.inl rfl⟩
  · rw [hsame]
    exact ⟨rfl, Or.inr ⟨hqueued, rfl⟩⟩

/-- Ten rows in a viewport of four lines are scrolled to offset 20, beyond the last rows, twice.
The host takes the request for offset 6 in between, and it is queued again. -/
theorem repeated_notification_changes_nothing_past_the_end :
    let c := (ofSettings .default).run
      [.resize 4, .dataChanged (Contents.connections 10), .scroll 2]
    let first := c.step (.scroll 20)
    let taken := first.takeScrollRequest.1
    (Call.scroll 20).isNotification = true ∧ c.commitsOn (.scroll 20) = true ∧
      first.viewport = some ⟨6, 4⟩ ∧ first.commitsOn (.scroll 20) = false ∧
      first.step (.scroll 20) = first ∧
      taken.pendingScroll = none ∧ first.pendingScroll = some 6 ∧
      taken.step (.scroll 20) = first := by
  intro c first taken
  obtain ⟨⟨hanswer, hsame⟩, -, htaken⟩ := repeated_notification_changes_nothing .default
    [.resize 4, .dataChanged (Contents.connections 10), .scroll 2] (.scroll 20) rfl
  have hqueued : (taken.step (.scroll 20)).pendingScroll = some 6 := by decide +kernel
  refine ⟨rfl, by decide +kernel, by decide +kernel, hanswer, hsame, rfl, by decide +kernel, ?_⟩
  rcases htaken with hnone | ⟨-, hagain⟩
  · have hmissing := congrArg pendingScroll hnone
    rw [hqueued] at hmissing
    cases hmissing
  · exact hagain

end Controller

end FlowWatch
