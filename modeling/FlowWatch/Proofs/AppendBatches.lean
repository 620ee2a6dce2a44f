import Mathlib
import FlowWatch.Proofs.DerivedView
import FlowWatch.Proofs.LiveTail

/-!
# Appending in batches

Records are appended to the captured sequence as polls bring them in, a few at a time or all at once.
What a table makes of them does not depend on where the polls cut the stream, apart from the number
of windows committed on the way (`appends_in_batches`).

It is enough to see this for two batches (`step_step_append`).  The view, the height index and the
selection are those of the whole sequence either way.  The viewport decides for every batch anew
whether it sits at the bottom, but appending never brings it there nor takes it away
(`isAtBottom_of_growth`), so it follows every batch or none, and the offset it asks for last is that
of the last batch that has made the extent grow.
-/

namespace FlowWatch

/-! ## Offsets under growth -/

/-- A longer extent can be scrolled at least as far. -/
lemma maxScrollTop_mono {before after : Nat} (h : before ≤ after) (height : Nat) :
    maxScrollTop before height ≤ maxScrollTop after height := by
  unfold maxScrollTop Offset.ofHeight
  omega

/-- A viewport settles inside the extent. -/
lemma tailTop_mem (wasAtBottom : Bool) (before after : Nat) (v : Viewport) :
    0 ≤ tailTop wasAtBottom before after v ∧
      tailTop wasAtBottom before after v ≤ maxScrollTop after v.height := by
  unfold tailTop
  split
  · exact ⟨maxScrollTop_nonneg .., le_rfl⟩
  · exact ⟨clampScrollTop_nonneg .., clampScrollTop_le ..⟩

variable {v : Viewport} {before after : Nat}

/-- A viewport inside the extent that is not at the bottom stays where it is under growth. -/
lemma tailTop_of_growth_elsewhere (hgrowth : before ≤ after) (hnonneg : 0 ≤ v.top)
    (htop : v.top ≤ maxScrollTop before v.height) : tailTop false before after v = v.top := by
  rw [tailTop, if_neg (by simp)]
  exact clampScrollTop_eq_self hnonneg (htop.trans (maxScrollTop_mono hgrowth _))

/-- Growth neither brings a viewport to the bottom nor takes it away. -/
lemma isAtBottom_of_growth (hgrowth : before ≤ after) (hnonneg : 0 ≤ v.top)
    (htop : v.top ≤ maxScrollTop before v.height) (epsilon : Nat) :
    isAtBottom (v.withTop (tailTop (isAtBottom v before epsilon) before after v)) after epsilon =
      isAtBottom v before epsilon := by
  cases hbottom : isAtBottom v before epsilon with
  | true => exact isAtBottom_tailTop after hbottom
  | false =>
    rw [tailTop_of_growth_elsewhere hgrowth hnonneg htop, ← Bool.not_eq_true]
    intro hafter
    have hbefore : isAtBottom v before epsilon = true := isAtBottom_anti hgrowth le_rfl hafter
    rw [hbottom] at hbefore
    cases hbefore

/-- A viewport that grows with the extent twice settles where it does when the extent grows at
once. -/
lemma tailTop_tailTop (wasAtBottom : Bool) {last : Nat} (hgrowth : before ≤ after)
    (hlast : after ≤ last) (hnonneg : 0 ≤ v.top) (htop : v.top ≤ maxScrollTop before v.height) :
    tailTop wasAtBottom after last (v.withTop (tailTop wasAtBottom before after v)) =
      tailTop wasAtBottom before last v := by
  rcases hlast.lt_or_eq with hgrows | rfl
  · cases wasAtBottom with
    | true =>
      simp only [tailTop, hgrows, hgrowth.trans_lt hgrows, and_self, if_true,
        Viewport.withTop_height]
    | false =>
      rw [tailTop_of_growth_elsewhere hgrowth hnonneg htop,
        tailTop_of_growth_elsewhere (hgrowth.trans hlast) hnonneg htop]
      exact tailTop_of_growth_elsewhere hlast hnonneg (htop.trans (maxScrollTop_mono hgrowth _))
  · obtain ⟨hlo, hhi⟩ := tailTop_mem wasAtBottom before after v
    rw [tailTop, if_neg fun h => absurd h.2 (lt_irrefl _)]
    exact clampScrollTop_eq_self hlo hhi

namespace Controller

/-! ## One batch -/

variable {settings : TableSettings} {told : Contents} {c : Controller} {flows : Array Flow}

/-- Every selected and every highlighted flow is in the captured sequence. -/
def SelectionKept (c : Controller) (flows : Array Flow) : Prop :=
  ∀ id ∈ c.selection.selected ++ c.selection.highlighted, ∃ flow ∈ flows, flow.id = id

/-- Flows that are appended do not take a selected one away. -/
lemma SelectionKept.append (h : c.SelectionKept flows) (more : Array Flow) :
    c.SelectionKept (flows ++ more) := by
  intro id hid
  obtain ⟨flow, hflow, rfl⟩ := h id hid
  exact ⟨flow, Array.mem_append_left _ hflow, rfl⟩

/-- A selection that is in the captured sequence is kept. -/
lemma selection_withFlows (h : c.SelectionKept flows) :
    (c.withFlows flows).selection = c.selection := by
  have hkept : ∀ id ∈ c.selection.selected ++ c.selection.highlighted,
      (flows.any fun f => f.id == id) = true := by
    intro id hid
    obtain ⟨flow, hflow, rfl⟩ := h id hid
    exact Array.any_eq_true'.mpr ⟨flow, hflow, beq_self_eq_true _⟩
  have hselected := List.filter_eq_self.mpr fun id hid => hkept id (List.mem_append_left _ hid)
  have hhighlighted := List.filter_eq_self.mpr fun id hid => hkept id (List.mem_append_right _ hid)
  change c.selection.retain _ = c.selection
  rw [Selection.retain, hselected, hhighlighted]

/-- Flows that are appended do not shorten the extent. -/
lemma scrollExtent_le_withFlows (h : Arranged settings told c)
    (hview : c.view = .derive flows c.filter) (more : Array Flow) :
    c.scrollExtent ≤ (c.withFlows (flows ++ more)).scrollExtent := by
  have hgrown := h.withFlows (flows ++ more)
  have hlen : c.view.len ≤ (c.withFlows (flows ++ more)).view.len := by
    rw [hview]
    exact OrderedView.len_derive_append_le flows more c.filter
  rw [scrollExtent, scrollExtent, h.contentHeight_eq_sum, hgrown.contentHeight_eq_sum]
  exact Nat.add_le_add_left (c.metrics.sum_heights_mono hlen) _

/-- New data change the extent as they change the contents. -/
lemma scrollExtent_dataChanged (c : Controller) (flows : Array Flow) :
    (c.step (.dataChanged flows)).scrollExtent = (c.withFlows flows).scrollExtent := by
  rw [step, stepLogged, value_onDataChanged, recompute_scrollExtent]

/-- New data are shown through the filter. -/
lemma view_dataChanged (h : Coherent settings told c) (flows : Array Flow) :
    (c.step (.dataChanged flows)).view = .derive flows (c.step (.dataChanged flows)).filter := by
  have hnext := coherent_step h (.dataChanged flows)
  rw [hnext.view_eq, hnext.filter_eq]
  rfl

/-- New data in which the selection is keep it. -/
lemma selectionKept_dataChanged (hkept : c.SelectionKept flows) :
    (c.step (.dataChanged flows)).SelectionKept flows := by
  have hselection : (c.step (.dataChanged flows)).selection = c.selection :=
    (c.step_selection _).trans (selection_withFlows hkept)
  rw [SelectionKept, hselection]
  exact hkept

/-- New data leave a table unmeasured that is. -/
lemma viewport_dataChanged_of_none (hv : c.viewport = none) :
    (c.step (.dataChanged flows)).viewport = none := by
  have hnext : (c.withFlows flows).viewport = none := hv
  rw [step, stepLogged, value_onDataChanged, recompute_viewport, hnext, Option.map_none]

/-- New data move a measured viewport to where a table at the bottom keeps it. -/
lemma viewport_dataChanged (h : Coherent settings told c) (hv : c.viewport = some v) :
    (c.step (.dataChanged flows)).viewport = some (v.withTop
      (tailTop c.atBottom c.scrollExtent (c.step (.dataChanged flows)).scrollExtent v)) :=
  viewport_of_changesContents h hv rfl

/-- Data that do not shorten the extent neither bring a table to the bottom nor take it away. -/
lemma atBottom_dataChanged (h : Coherent settings told c)
    (hgrowth : c.scrollExtent ≤ (c.step (.dataChanged flows)).scrollExtent) :
    (c.step (.dataChanged flows)).atBottom = c.atBottom := by
  cases hv : c.viewport with
  | none => rw [atBottom, atBottom, hv, viewport_dataChanged_of_none hv]
  | some v =>
    obtain ⟨hnonneg, htop⟩ := h.top_mem v hv
    have hanchor : (c.step (.dataChanged flows)).anchor = c.anchor := by
      rw [step_frame]
      rfl
    have hbottom : c.atBottom = isAtBottom v c.scrollExtent c.anchor.epsilon := by
      rw [atBottom, hv]
    rw [atBottom, viewport_dataChanged h hv, hanchor, hbottom]
    exact isAtBottom_of_growth hgrowth hnonneg htop _

/-- Data that do not shorten the extent queue its end if it has grown below a viewport at the bottom,
and else nothing. -/
lemma pendingScroll_dataChanged (h : Coherent settings told c) (hv : c.viewport = some v)
    (hgrowth : c.scrollExtent ≤ (c.step (.dataChanged flows)).scrollExtent) :
    (c.step (.dataChanged flows)).pendingScroll =
      if c.atBottom = true ∧ c.scrollExtent < (c.step (.dataChanged flows)).scrollExtent then
        some (maxScrollTop (c.step (.dataChanged flows)).scrollExtent v.height)
      else c.pendingScroll := by
  obtain ⟨hnonneg, htop⟩ := h.top_mem v hv
  have hnext : (c.withFlows flows).viewport = some v := hv
  rw [scrollExtent_dataChanged] at hgrowth ⊢
  rw [step, stepLogged, value_onDataChanged, recompute_pendingScroll_of_some _ _ _ hnext,
    restoredTop_captureAnchor _ hv hnext]
  split
  · simp only [Option.isSome_some, Bool.true_or, if_true, Option.getD_some]
    rw [clampScrollTop_eq_self (maxScrollTop_nonneg ..) le_rfl]
  · have hself : clampScrollTop v.top (c.withFlows flows).scrollExtent v.height = v.top :=
      clampScrollTop_eq_self hnonneg (htop.trans (maxScrollTop_mono hgrowth _))
    simp only [Option.getD_none, hself, bne_self_eq_false, Option.isSome_none, Bool.or_self,
      Bool.false_eq_true, if_false]
    rfl

/-- Before it is measured a table queues nothing. -/
lemma pendingScroll_dataChanged_of_none (hv : c.viewport = none) :
    (c.step (.dataChanged flows)).pendingScroll = c.pendingScroll :=
  recompute_pendingScroll_of_none _ .dataChanged _ hv

/-! ## Two batches -/

section Extents

variable {few many : Array Flow}

/-- While the extent grows, the viewport goes where it goes at once. -/
lemma viewport_dataChanged_twice (h : Coherent settings told c)
    (hgrowth : c.scrollExtent ≤ (c.step (.dataChanged few)).scrollExtent)
    (hlast : (c.step (.dataChanged few)).scrollExtent ≤ (c.step (.dataChanged many)).scrollExtent)
    (hextent : ((c.step (.dataChanged few)).step (.dataChanged many)).scrollExtent =
      (c.step (.dataChanged many)).scrollExtent) :
    ((c.step (.dataChanged few)).step (.dataChanged many)).viewport =
      (c.step (.dataChanged many)).viewport := by
  have hmiddle := coherent_step h (.dataChanged few)
  have hbottom := atBottom_dataChanged h hgrowth
  cases hv : c.viewport with
  | none =>
    rw [viewport_dataChanged_of_none hv,
      viewport_dataChanged_of_none (viewport_dataChanged_of_none hv)]
  | some v =>
    obtain ⟨hnonneg, htop⟩ := h.top_mem v hv
    rw [viewport_dataChanged hmiddle (viewport_dataChanged h hv), viewport_dataChanged h hv, hbottom,
      hextent]
    exact congrArg (some <| v.withTop ·) (tailTop_tailTop _ hgrowth hlast hnonneg htop)

/-- While the extent grows, the scroll that is queued last is the one that is queued at once. -/
lemma pendingScroll_dataChanged_twice (h : Coherent settings told c)
    (hgrowth : c.scrollExtent ≤ (c.step (.dataChanged few)).scrollExtent)
    (hlast : (c.step (.dataChanged few)).scrollExtent ≤ (c.step (.dataChanged many)).scrollExtent)
    (hextent : ((c.step (.dataChanged few)).step (.dataChanged many)).scrollExtent =
      (c.step (.dataChanged many)).scrollExtent) :
    ((c.step (.dataChanged few)).step (.dataChanged many)).pendingScroll =
      (c.step (.dataChanged many)).pendingScroll := by
  have hmiddle := coherent_step h (.dataChanged few)
  have hbottom := atBottom_dataChanged h hgrowth
  cases hv : c.viewport with
  | none =>
    rw [pendingScroll_dataChanged_of_none (viewport_dataChanged_of_none hv),
      pendingScroll_dataChanged_of_none hv, pendingScroll_dataChanged_of_none hv]
  | some v =>
    have hlate := pendingScroll_dataChanged hmiddle (viewport_dataChanged h hv)
      (hlast.trans_eq hextent.symm)
    rw [hlate, hbottom, hextent, pendingScroll_dataChanged h hv hgrowth,
      pendingScroll_dataChanged h hv (hgrowth.trans hlast), Viewport.withTop_height]
    rcases hlast.lt_or_eq with hgrows | hsame
    · simp only [hgrows, hgrowth.trans_lt hgrows, and_true]
      cases c.atBottom <;> simp
    · simp only [hsame, lt_irrefl, and_false, if_false]

end Extents

/-- What is committed by a coherent table depends on its rows and its viewport. -/
lemma committed_congr {settings' : TableSettings} {told' : Contents} {d : Controller}
    (hc : Coherent settings told c) (hd : Coherent settings' told' d) (hrule : c.rule = d.rule)
    (hview : c.view = d.view) (hheights : c.heights = d.heights)
    (hviewport : c.viewport = d.viewport) : c.committed = d.committed := by
  rw [hc.committed_eq, hd.committed_eq, snapshot, snapshot, hrule, hview, hheights, hviewport]

/-- Where the selection is kept, the rows are replaced over the whole sequence as they are from the
start, whatever data came before. -/
lemma withFlows_dataChanged (hkept : c.SelectionKept flows) (more : Array Flow) :
    (c.step (.dataChanged flows)).withFlows (flows ++ more) =
      { c.withFlows (flows ++ more) with
        viewport := (c.step (.dataChanged flows)).viewport
        pendingScroll := (c.step (.dataChanged flows)).pendingScroll
        committed := (c.step (.dataChanged flows)).committed
        commits := (c.step (.dataChanged flows)).commits } := by
  have hselection := selection_withFlows hkept
  rw [step_frame]
  simp only [changed]
  unfold withFlows at hselection ⊢
  simp only [rebuildHeights] at hselection ⊢
  rw [hselection]

/-- Two tables that come from the same one by another viewport, queued scroll and commit are the same
but for the number of commits, if these are. -/
lemma eq_but_commits {base d e : Controller}
    (hd : d = { base with
      viewport := d.viewport, pendingScroll := d.pendingScroll, committed := d.committed
      commits := d.commits })
    (he : e = { base with
      viewport := e.viewport, pendingScroll := e.pendingScroll, committed := e.committed
      commits := e.commits })
    (hviewport : d.viewport = e.viewport) (hpending : d.pendingScroll = e.pendingScroll)
    (hcommitted : d.committed = e.committed) : d = { e with commits := d.commits } := by
  rw [he]
  exact hd.trans (by rw [hviewport, hpending, hcommitted])

/-- Flows that are appended in two batches lead to the table to which they lead at once, but for the
number of commits. -/
lemma step_step_append (h : Coherent settings told c) (hview : c.view = .derive flows c.filter)
    (hkept : c.SelectionKept flows) (first second : Array Flow) :
    let middle := c.step (.dataChanged (flows ++ first))
    let twice := middle.step (.dataChanged (flows ++ first ++ second))
    let once := c.step (.dataChanged (flows ++ first ++ second))
    twice = { once with commits := twice.commits } := by
  intro middle twice once
  set whole := flows ++ first ++ second
  have hmiddle : Coherent settings _ middle := coherent_step h _
  have htwice : Coherent settings _ twice := coherent_step hmiddle _
  have honce : Coherent settings _ once := coherent_step h _
  have hrows : middle.withFlows whole =
      { c.withFlows whole with
        viewport := middle.viewport
        pendingScroll := middle.pendingScroll
        committed := middle.committed
        commits := middle.commits } := withFlows_dataChanged (hkept.append first) second
  have hframe : twice =
      { c.withFlows whole with
        viewport := twice.viewport
        pendingScroll := twice.pendingScroll
        committed := twice.committed
        commits := twice.commits } := by
    simp only [twice]
    rw [step_frame, changed, hrows]
  have hframe' : once =
      { c.withFlows whole with
        viewport := once.viewport
        pendingScroll := once.pendingScroll
        committed := once.committed
        commits := once.commits } := step_frame c _
  -- the extent grows with the first batch and again with the second one
  have hgrowth : c.scrollExtent ≤ middle.scrollExtent := by
    rw [scrollExtent_dataChanged]
    exact scrollExtent_le_withFlows h.toArranged hview first
  have hlast : middle.scrollExtent ≤ once.scrollExtent := by
    have hgrown := scrollExtent_le_withFlows hmiddle.toArranged (view_dataChanged h _) second
    rw [hrows] at hgrown
    exact hgrown.trans_eq (c.scrollExtent_dataChanged whole).symm
  have hextent : twice.scrollExtent = once.scrollExtent := by
    rw [hframe, hframe']
    rfl
  have hviewport : twice.viewport = once.viewport :=
    viewport_dataChanged_twice h hgrowth hlast hextent
  have hpending : twice.pendingScroll = once.pendingScroll :=
    pendingScroll_dataChanged_twice h hgrowth hlast hextent
  have hcommitted : twice.committed = once.committed := by
    apply committed_congr htwice honce
    · rw [hframe, hframe']
    · rw [hframe, hframe']
    · rw [hframe, hframe']
    · exact hviewport
  exact eq_but_commits hframe hframe' hviewport hpending hcommitted

/-! ## Any number of batches -/

/-- The calls that tell a table of batches that are appended to a captured sequence one by one. -/
def appending (flows : Array Flow) : List (List Flow) → List Call
  | [] => []
  | batch :: batches =>
    .dataChanged (flows ++ batch.toArray) :: appending (flows ++ batch.toArray) batches

/-- From a coherent table, any batches lead where they lead at once. -/
lemma run_appending (h : Coherent settings told c) (hview : c.view = .derive flows c.filter)
    (hkept : c.SelectionKept flows) {batches : List (List Flow)} (hsome : batches ≠ []) :
    let once := c.step (.dataChanged (flows ++ batches.flatten.toArray))
    c.run (appending flows batches) =
      { once with commits := (c.run (appending flows batches)).commits } := by
  induction batches generalizing c flows told with
  | nil => exact absurd rfl hsome
  | cons batch batches ih =>
    intro once
    cases batches with
    | nil =>
      have hwhole : flows ++ [batch].flatten.toArray = flows ++ batch.toArray := by simp
      simp only [once, hwhole]
      rfl
    | cons next batches =>
      have hrest := ih (coherent_step h _) (view_dataChanged h _)
        (selectionKept_dataChanged (hkept.append batch.toArray)) (List.cons_ne_nil next batches)
      have htwice := step_step_append h hview hkept batch.toArray (next :: batches).flatten.toArray
      have hwhole : flows ++ (batch :: next :: batches).flatten.toArray =
          flows ++ batch.toArray ++ (next :: batches).flatten.toArray := by
        rw [List.flatten_cons, ← List.append_toArray, Array.append_assoc]
      rw [appending, run_cons, hrest, htwice]
      simp only [once, hwhole]

/-- **Appending in batches.**  After any sequence of calls, let the view of a table show a captured
sequence in which all selected and highlighted flows are.  Flows that are appended to it in one or
more batches, some of them empty perhaps, lead to the same table as if they were appended at once:
to the same view, selection, viewport, committed window, status at the bottom and queued scroll.
Only the number of commits may be another. -/
theorem appends_in_batches (settings : TableSettings) (calls : List Call) (flows : Array Flow)
    (more : List Flow) (batches : List (List Flow)) (hbatches : batches.flatten = more)
    (hsome : batches ≠ [])
    (hview : ((ofSettings settings).run calls).view =
      .derive flows ((ofSettings settings).run calls).filter)
    (hkept : ((ofSettings settings).run calls).SelectionKept flows) :
    let c := (ofSettings settings).run calls
    let once := c.step (.dataChanged (flows ++ more.toArray))
    c.run (appending flows batches) =
      { once with commits := (c.run (appending flows batches)).commits } := by
  intro c once
  subst hbatches
  exact run_appending (coherent_run settings calls) hview hkept hsome

/-- Two rows of two lines below a header, the first of them selected, are at the bottom of five
lines.  Seven more arrive in four batches, of which the first and the third are empty. -/
theorem appends_in_batches_one_by_one :
    let settings : TableSettings := ⟨⟨2, by decide⟩, 1, 1, 0⟩
    let shown := Contents.connections 2
    let more := (Contents.connections 9).toList.drop 2
    let batches := [[], more.take 1, [], more.drop 1]
    let c := (ofSettings settings).run
      [.resize 5, .dataChanged shown, .editSelection fun _ => ⟨[.sequential "tcp" 0], []⟩]
    let once := c.step (.dataChanged (shown ++ more.toArray))
    let last := c.run (appending shown batches)
    (batches.flatten = more ∧ batches ≠ [] ∧ c.view = .derive shown c.filter ∧
      c.SelectionKept shown) ∧
    last.viewport = some ⟨14, 5⟩ ∧ last.pendingScroll = some 14 ∧ last.window = ⟨4, 9, 8, 0⟩ ∧
      last.selection.selected = [.sequential "tcp" 0] ∧ once.commits < last.commits := by
  intro settings shown more batches c once last
  have h : Coherent settings _ c := coherent_run settings _
  have hbatches : batches.flatten = more := by decide +kernel
  have hsome : batches ≠ [] := List.cons_ne_nil _ _
  have hview : c.view = .derive shown c.filter := by
    rw [h.view_eq, h.filter_eq]
    rfl
  have hkept : c.SelectionKept shown := by
    intro id hid
    have hselected : id = .sequential "tcp" 0 := List.mem_singleton.mp hid
    subst hselected
    exact ⟨shown[0], Array.getElem_mem _, rfl⟩
  have hlast : last = { once with commits := last.commits } :=
    appends_in_batches settings _ shown more batches hbatches hsome hview hkept
  refine ⟨⟨hbatches, hsome, hview, hkept⟩, ?_, ?_, ?_, ?_, by decide +kernel⟩
  all_goals
    rw [hlast]
    decide +kernel

end Controller

end FlowWatch
