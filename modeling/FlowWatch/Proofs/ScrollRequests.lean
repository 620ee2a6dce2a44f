import Mathlib
import FlowWatch.Proofs.Coherence

/-!
# Queued scroll requests

A table queues the offsets it decides on until the host takes them.  A queued request is current if
it asks for the offset at which the table is.  The step in which every handler ends keeps a request
current: it either queues the offset at which the viewport settles, or it leaves the viewport where
it was (`RequestCurrent.recompute`).

A handler can therefore only outdate a request by moving the viewport before that step and without
queueing the new offset.  A relative scroll queues it; a scroll that the host reports does not, and
if the offset lies inside the extent nothing is queued later either (`Overtakes`).  These scrolls
are the only calls after which a current request is out of date (`requestCurrent_step_iff`).
-/

namespace FlowWatch

namespace Controller

/-- The queued scroll request, if there is one, asks for the current offset. -/
def RequestCurrent (c : Controller) : Prop :=
  ∀ asked, c.pendingScroll = some asked → asked = c.viewportTop

/-- A scroll to `top` that the host reports lies inside the extent, and a request for another offset
is queued. -/
def Overtakes (c : Controller) (top : Int) : Prop :=
  clampScrollTop top c.scrollExtent ((c.viewport.map Viewport.height).getD 0) = top ∧
    ∃ asked, c.pendingScroll = some asked ∧ asked ≠ top

variable {c : Controller}

/-! ## The step in which every handler ends -/

/-- A measured table has a current request after the step if the step has queued one, or else if the
request was current before. -/
lemma requestCurrent_recompute_iff {v : Viewport} (hv : c.viewport = some v) (trigger : Trigger)
    (forced : Option Int) :
    (c.recompute trigger forced).value.1.RequestCurrent ↔
      (forced.isSome = true ∨
        clampScrollTop (forced.getD v.top) c.scrollExtent v.height ≠ v.top) ∨
      c.RequestCurrent := by
  set top := clampScrollTop (forced.getD v.top) c.scrollExtent v.height
  have hafter : (c.recompute trigger forced).value.1.viewportTop = top := by
    rw [viewportTop, recompute_viewport, hv]
    rfl
  have hbefore : c.viewportTop = v.top := by
    rw [viewportTop, hv]
    rfl
  have hqueue : (c.recompute trigger forced).value.1.pendingScroll =
      if forced.isSome || top != v.top then some top else c.pendingScroll :=
    c.recompute_pendingScroll_of_some trigger forced hv
  rw [RequestCurrent, RequestCurrent, hafter, hbefore, hqueue]
  by_cases hdecided : forced.isSome = true ∨ top ≠ v.top
  · rw [if_pos (by simpa using hdecided)]
    exact iff_of_true (fun asked hasked => (Option.some.inj hasked).symm) (Or.inl hdecided)
  · rw [if_neg (by simpa using hdecided)]
    have hstays : top = v.top := not_not.mp (not_or.mp hdecided).2
    rw [← hstays]
    exact ⟨Or.inr, fun h => h.resolve_left (by rwa [← hstays] at hdecided)⟩

/-- The step keeps a request current. -/
lemma RequestCurrent.recompute (h : c.RequestCurrent) (trigger : Trigger) (forced : Option Int) :
    (c.recompute trigger forced).value.1.RequestCurrent := by
  cases hv : c.viewport with
  | some v => exact (requestCurrent_recompute_iff hv trigger forced).mpr (Or.inr h)
  | none =>
    have hafter : (c.recompute trigger forced).value.1.viewportTop = c.viewportTop := by
      rw [viewportTop, viewportTop, recompute_viewport, hv]
      rfl
    rw [RequestCurrent, recompute_pendingScroll_of_none c trigger forced hv, hafter]
    exact h

/-! ## One call -/

/-- After a scroll that the host reports, the request is current exactly if the scroll has not
overtaken it. -/
lemma requestCurrent_onScroll_iff (top : Int) :
    (c.onScroll top).value.1.RequestCurrent ↔ ¬ c.Overtakes top := by
  rw [value_onScroll, requestCurrent_recompute_iff rfl]
  have hmoved : (c.withViewport ⟨top, (c.viewport.map Viewport.height).getD 0⟩).RequestCurrent ↔
      ∀ asked, c.pendingScroll = some asked → asked = top := Iff.rfl
  have hextent : (c.withViewport ⟨top, (c.viewport.map Viewport.height).getD 0⟩).scrollExtent =
      c.scrollExtent := rfl
  rw [hmoved, hextent, Overtakes]
  simp only [Option.isSome_none, Option.getD_none, Bool.false_eq_true, false_or, not_and,
    not_exists, not_not, ne_eq]
  exact imp_iff_not_or.symm

/-- A change of the selection keeps a request current. -/
lemma RequestCurrent.selectionChanged (h : c.RequestCurrent) :
    c.selectionChanged.value.1.RequestCurrent := by
  have hfollow : c.follow.1.RequestCurrent := by
    rw [follow_frame]
    exact h
  rw [value_selectionChanged]
  exact hfollow.recompute _ _

/-- The only calls that outdate a current request are the scrolls that overtake it. -/
lemma requestCurrent_step_iff (h : c.RequestCurrent) (call : Call) :
    (c.step call).RequestCurrent ↔ ∀ top, call = .scroll top → ¬ c.Overtakes top := by
  cases call with
  | scroll top =>
    rw [step, stepLogged, requestCurrent_onScroll_iff]
    simp
  | scrollBy delta =>
    refine iff_of_true ?_ nofun
    rw [step, stepLogged, value_scrollBy, requestCurrent_onScroll_iff]
    rintro ⟨-, asked, hasked, hne⟩
    exact hne (Option.some.inj hasked).symm
  | resize height =>
    refine iff_of_true ?_ nofun
    rw [step, stepLogged, value_onResize]
    apply RequestCurrent.recompute
    exact h
  | dataChanged flows =>
    refine iff_of_true ?_ nofun
    rw [step, stepLogged, value_onDataChanged]
    apply RequestCurrent.recompute
    exact h
  | setFilter filter flows =>
    refine iff_of_true ?_ nofun
    by_cases hsame : filter = c.filter
    · rw [step, stepLogged, hsame, value_setFilter_self]
      exact h
    · rw [step, stepLogged, c.value_setFilter hsame]
      apply RequestCurrent.recompute
      exact h
  | setSelection selection =>
    refine iff_of_true ?_ nofun
    apply RequestCurrent.selectionChanged
    exact h
  | selectRelative shift =>
    refine iff_of_true ?_ nofun
    apply RequestCurrent.selectionChanged
    exact h
  | clearSelection =>
    refine iff_of_true ?_ nofun
    apply RequestCurrent.selectionChanged
    exact h
  | setHeightOverrides overrides =>
    refine iff_of_true ?_ nofun
    rw [step, stepLogged, value_setHeightOverrides]
    apply RequestCurrent.recompute
    exact h
  | takeScrollRequest => exact iff_of_true nofun nofun
  | editSelection edit => exact iff_of_true h nofun

/-! ## A run -/

/-- **Scroll requests.**  The queued request is absent or asks for the current offset at every point
of a run exactly if the host never reports a scroll that overtakes it. -/
theorem scroll_requests_current_iff (settings : TableSettings) (calls : List Call) :
    (∀ made, made <+: calls → ((ofSettings settings).run made).RequestCurrent) ↔
      ∀ made top, made ++ [.scroll top] <+: calls →
        ¬ ((ofSettings settings).run made).Overtakes top := by
  constructor
  · intro hcurrent made top hprefix
    have hbefore := hcurrent made ((List.prefix_append made _).trans hprefix)
    have hafter := hcurrent _ hprefix
    rw [run_append, run_cons, run_nil] at hafter
    exact (requestCurrent_step_iff hbefore _).mp hafter top rfl
  · intro hnever made
    induction made using List.reverseRecOn with
    | nil => exact fun _ => nofun
    | append_singleton made call ih =>
      intro hprefix
      have hbefore := ih ((List.prefix_append made _).trans hprefix)
      rw [run_append, run_cons, run_nil]
      refine (requestCurrent_step_iff hbefore call).mpr fun top hcall => ?_
      exact hnever made top (hcall ▸ hprefix)

/-- Ten rows arrive and the table asks to be scrolled to the last ones; the host scrolls to the
third row instead, and the request is still there. -/
theorem overtaken_request_stays_queued :
    let c := (ofSettings .default).run
      [.resize 4, .dataChanged (Contents.connections 10), .scroll 2]
    c.pendingScroll = some 6 ∧ c.viewportTop = 2 ∧ ¬ c.RequestCurrent := by
  intro c
  have hqueued : c.pendingScroll = some 6 := by decide +kernel
  have htop : c.viewportTop = 2 := by decide +kernel
  refine ⟨hqueued, htop, fun hcurrent => ?_⟩
  have hsix := hcurrent 6 hqueued
  rw [htop] at hsix
  cases hsix

end Controller

end FlowWatch
