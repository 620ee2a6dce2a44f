import Mathlib
import FlowWatch.Proofs.Recompute

/-!
# The committed window is never stale

What holds of a table after any sequence of calls (`Coherent`).  Part of it concerns the contents
alone (`Arranged`): they are what the host has told the table (`Contents.ofCalls`), the view is
derived from them, and the height index is built for the rows of that view.  A handler changes the
contents so that they stay arranged, and the step it ends in then settles the viewport and commits
the window found there (`coherent_recompute`), whatever the handler was.
-/

namespace FlowWatch

namespace Controller

/-! ## What the host has told a table -/

/-- A captured sequence, a filter and measured heights. -/
structure Contents where
  flows : Array Flow
  filter : FilterSpec
  overrides : Array Nat

namespace Contents

/-- A table starts with nothing to show, shows everything and has measured no row. -/
def initial : Contents := ⟨#[], .everything, #[]⟩

/-- What the host has told after one more call.  The sequence that comes with a filter counts only
if the filter is another one. -/
def after (told : Contents) : Call → Contents
  | .dataChanged flows => { told with flows }
  | .setFilter filter flows => if filter = told.filter then told else { told with flows, filter }
  | .setHeightOverrides overrides => { told with overrides }
  | _ => told

/-- What the host has told in a sequence of calls. -/
def ofCalls (calls : List Call) : Contents := calls.foldl after initial

/-- A captured sequence of bare connections, to run a table on. -/
def connections (count : Nat) : Array Flow :=
  ((List.range count).map fun n =>
    ⟨.sequential "tcp" n, .tcp, .midnight ⟨2025, 1, 1⟩, none, none, none⟩).toArray

end Contents

/-! ## The invariant -/

/-- The contents of a table are what the host has told it, and belong together. -/
structure Arranged (settings : TableSettings) (told : Contents) (c : Controller) : Prop where
  /-- Windows are found by the row height and the overscan of the settings. -/
  rule_eq : c.rule = ⟨settings.rowHeight, settings.overscan⟩
  /-- The header has the height of the settings. -/
  headerHeight_eq : c.headerHeight = settings.headerHeight
  /-- The slack at the bottom is that of the settings. -/
  anchor_eq : c.anchor = ⟨settings.bottomEpsilon⟩
  /-- Rows have the measured heights, or else the height of the settings. -/
  metrics_eq : c.metrics = ⟨settings.rowHeight, told.overrides⟩
  /-- The filter is the last one set. -/
  filter_eq : c.filter = told.filter
  /-- The view shows what the filter lets through. -/
  view_eq : c.view = .derive told.flows told.filter
  /-- The height index describes the rows of the view. -/
  heights_eq : c.heights = c.metrics.heightIndex c.view.len

/-- The contents of a table belong together, its viewport lies inside the scroll extent, and what is
committed is the window found there. -/
structure Coherent (settings : TableSettings) (told : Contents) (c : Controller) : Prop
    extends Arranged settings told c where
  /-- The viewport lies inside the scroll extent. -/
  top_mem : ∀ v, c.viewport = some v →
    0 ≤ v.top ∧ v.top ≤ maxScrollTop c.scrollExtent v.height
  /-- The committed snapshot is the one the state calls for. -/
  committed_eq : c.committed = c.snapshot

/-- A table that has just been set up is coherent; it shows nothing. -/
lemma coherent_ofSettings (settings : TableSettings) :
    Coherent settings .initial (ofSettings settings) where
  rule_eq := rfl
  headerHeight_eq := rfl
  anchor_eq := rfl
  metrics_eq := rfl
  filter_eq := rfl
  view_eq := rfl
  heights_eq := rfl
  top_mem := by
    intro v hv
    cases hv
  committed_eq := rfl

variable {settings : TableSettings} {told : Contents} {c : Controller}

/-- Once its contents belong together, the step in which every handler ends makes a table
coherent. -/
lemma coherent_recompute (h : Arranged settings told c) (trigger : Trigger)
    (forced : Option Int) : Coherent settings told (c.recompute trigger forced).value.1 where
  rule_eq := by simpa using h.rule_eq
  headerHeight_eq := by simpa using h.headerHeight_eq
  anchor_eq := by simpa using h.anchor_eq
  metrics_eq := by simpa using h.metrics_eq
  filter_eq := by simpa using h.filter_eq
  view_eq := by simpa using h.view_eq
  heights_eq := by simpa using h.heights_eq
  top_mem := by
    intro v hv
    rw [recompute_viewport, Option.map_eq_some_iff] at hv
    obtain ⟨before, -, rfl⟩ := hv
    rw [recompute_scrollExtent]
    exact ⟨clampScrollTop_nonneg .., clampScrollTop_le ..⟩
  committed_eq := c.recompute_committed trigger forced

/-! ## What the handlers change -/

/-- The contents belong together over another captured sequence. -/
lemma Arranged.withFlows (h : Arranged settings told c) (flows : Array Flow) :
    Arranged settings { told with flows } (c.withFlows flows) :=
  { h with
    view_eq := congrArg (OrderedView.derive flows) h.filter_eq
    heights_eq := rfl }

/-- The contents belong together with another filter. -/
lemma Arranged.withFilter (h : Arranged settings told c) (filter : FilterSpec)
    (flows : Array Flow) :
    Arranged settings { told with flows, filter } (c.withFilter filter flows) :=
  { h with filter_eq := rfl, view_eq := rfl, heights_eq := rfl }

/-- The contents belong together with other measured heights. -/
lemma Arranged.withOverrides (h : Arranged settings told c) (overrides : Array Nat) :
    Arranged settings { told with overrides } (c.withOverrides overrides) :=
  { h with
    metrics_eq := congrArg (RowMetrics.mk · overrides) (congrArg RowMetrics.rowHeight h.metrics_eq)
    heights_eq := rfl }

/-- Following a selection does not change the contents. -/
lemma Arranged.follow (h : Arranged settings told c) : Arranged settings told c.follow.1 := by
  rw [follow_frame]
  exact { h with headerHeight_eq := c.follow_headerHeight.trans h.headerHeight_eq }

/-! ## One call -/

/-- A change of the selection ends in a coherent table. -/
lemma coherent_selectionChanged (h : Arranged settings told c) :
    Coherent settings told c.selectionChanged.value.1 := by
  rw [value_selectionChanged]
  exact coherent_recompute h.follow ..

/-- Every call leads from a coherent table to a coherent one. -/
lemma coherent_step (h : Coherent settings told c) (call : Call) :
    Coherent settings (told.after call) (c.step call) := by
  unfold step stepLogged
  cases call with
  | scroll top =>
    rw [value_onScroll]
    apply coherent_recompute
    exact { h with }
  | scrollBy delta =>
    rw [value_scrollBy, value_onScroll]
    apply coherent_recompute
    exact { h with }
  | resize height =>
    rw [value_onResize]
    apply coherent_recompute
    exact { h with }
  | dataChanged flows =>
    rw [value_onDataChanged]
    exact coherent_recompute (h.withFlows flows) ..
  | setFilter filter flows =>
    by_cases hsame : filter = c.filter
    · have htold : told.after (.setFilter filter flows) = told :=
        if_pos (hsame.trans h.filter_eq)
      subst hsame
      rw [value_setFilter_self, htold]
      exact h
    · have htold : told.after (.setFilter filter flows) = { told with flows, filter } :=
        if_neg (h.filter_eq ▸ hsame)
      rw [c.value_setFilter hsame, htold]
      exact coherent_recompute (h.withFilter filter flows) ..
  | setSelection selection => exact coherent_selectionChanged { h with }
  | selectRelative shift => exact coherent_selectionChanged { h with }
  | clearSelection => exact coherent_selectionChanged { h with }
  | setHeightOverrides overrides =>
    rw [value_setHeightOverrides]
    exact coherent_recompute (h.withOverrides overrides) ..
  | takeScrollRequest => exact { h with }
  | editSelection edit => exact { h with }

/-- What a step that ends in `recompute` tells of the committed snapshot, if everything before left
it alone. -/
lemma reports_of_recompute {next : Controller} {trigger : Trigger} {forced : Option Int}
    {result : Controller × Bool} (hresult : result = (next.recompute trigger forced).value)
    (hcommitted : next.committed = c.committed) (hcommits : next.commits = c.commits) :
    (result.2 = true ↔ result.1.committed ≠ c.committed) ∧
      result.1.commits = if result.2 then c.commits + 1 else c.commits := by
  subst hresult
  rw [← hcommitted, ← hcommits]
  exact ⟨next.recompute_changed_iff trigger forced, next.recompute_commits trigger forced⟩

/-- A call tells whether it has changed the committed snapshot, and only then counts a commit. -/
lemma step_reports (c : Controller) (call : Call) :
    (c.commitsOn call = true ↔ (c.step call).committed ≠ c.committed) ∧
      (c.step call).commits = if c.commitsOn call then c.commits + 1 else c.commits := by
  unfold commitsOn step stepLogged
  cases call with
  | scroll top => exact reports_of_recompute (c.value_onScroll top) rfl rfl
  | scrollBy delta => exact reports_of_recompute (c.value_scrollBy delta) rfl rfl
  | resize height => exact reports_of_recompute (c.value_onResize height) rfl rfl
  | dataChanged flows => exact reports_of_recompute (c.value_onDataChanged flows) rfl rfl
  | setFilter filter flows =>
    by_cases hsame : filter = c.filter
    · subst hsame
      rw [value_setFilter_self]
      simp
    · exact reports_of_recompute (c.value_setFilter hsame flows) rfl rfl
  | setSelection selection =>
    exact reports_of_recompute (value_selectionChanged _) (follow_committed _) (follow_commits _)
  | selectRelative shift =>
    exact reports_of_recompute (value_selectionChanged _) (follow_committed _) (follow_commits _)
  | clearSelection =>
    exact reports_of_recompute (value_selectionChanged _) (follow_committed _) (follow_commits _)
  | setHeightOverrides overrides =>
    exact reports_of_recompute (c.value_setHeightOverrides overrides) rfl rfl
  | takeScrollRequest => simp [takeScrollRequest]
  | editSelection edit => simp [editSelection]

/-- A call counts at most one commit. -/
lemma commits_step (c : Controller) (call : Call) :
    c.commits ≤ (c.step call).commits ∧ (c.step call).commits ≤ c.commits + 1 := by
  rw [(c.step_reports call).2]
  split
  · exact ⟨Nat.le_succ _, le_rfl⟩
  · exact ⟨le_rfl, Nat.le_succ _⟩

/-! ## A run -/

/-- After any sequence of calls a table is coherent. -/
theorem coherent_run (settings : TableSettings) (calls : List Call) :
    Coherent settings (.ofCalls calls) ((ofSettings settings).run calls) := by
  induction calls using List.reverseRecOn with
  | nil => exact coherent_ofSettings settings
  | append_singleton calls call ih =>
    rw [run_append, run_cons, run_nil, Contents.ofCalls, List.foldl_append]
    exact coherent_step ih call

/-- There are at most as many commits as calls. -/
lemma commits_run_le (settings : TableSettings) (calls : List Call) :
    ((ofSettings settings).run calls).commits ≤ calls.length := by
  induction calls using List.reverseRecOn with
  | nil => exact le_rfl
  | append_singleton calls call ih =>
    rw [run_append, run_cons, run_nil, List.length_append]
    exact (commits_step _ call).2.trans (Nat.succ_le_succ ih)

/-- **Freshness.**  After any sequence of calls the view and the height index are those of what the
host has told, the viewport lies inside the scroll extent, the committed snapshot is the window
found there, and a call answers and counts a commit exactly when it changes that snapshot. -/
theorem committed_window_fresh (settings : TableSettings) (calls : List Call) :
    let c := (ofSettings settings).run calls
    let told := Contents.ofCalls calls
    (c.filter = told.filter ∧ c.metrics = ⟨settings.rowHeight, told.overrides⟩ ∧
      c.view = .derive told.flows c.filter ∧ c.heights = c.metrics.heightIndex c.view.len) ∧
    (match c.viewport with
      | some v =>
        (0 ≤ v.top ∧ v.top ≤ maxScrollTop c.scrollExtent v.height) ∧
          c.committed =
            ⟨(⟨settings.rowHeight, settings.overscan⟩ : WindowCalculator).compute c.view.len v
              c.heights, v.top⟩
      | none => c.committed = .unmeasured) ∧
    ∀ call, (c.commitsOn call = true ↔ (c.step call).committed ≠ c.committed) ∧
      (c.step call).commits = if c.commitsOn call then c.commits + 1 else c.commits := by
  intro c told
  have h : Coherent settings told c := coherent_run settings calls
  refine ⟨⟨h.filter_eq, h.metrics_eq, ?_, h.heights_eq⟩, ?_, c.step_reports⟩
  · rw [h.filter_eq]
    exact h.view_eq
  · have hcommitted := h.committed_eq
    unfold snapshot at hcommitted
    split
    · rename_i v hv
      rw [hv, h.rule_eq] at hcommitted
      exact ⟨h.top_mem v hv, hcommitted⟩
    · rename_i hv
      rwa [hv] at hcommitted

end Controller

end FlowWatch
