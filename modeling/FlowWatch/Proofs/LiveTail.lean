import Mathlib
import FlowWatch.Proofs.RowGeometry
import FlowWatch.Proofs.WindowCoverage

/-!
# Live tail and non-interruption

A call that replaces the captured sequence, the filter or the measured heights may change the scroll
extent.  Whether the viewport sat at the bottom is captured before the change and the bottom is
restored after it, but only if the extent has grown; a table that has shrunk, or whose viewport sat
elsewhere, keeps its offset as far as the new extent allows.  `tailTop` is the offset that results,
and the theorem reads off from it that the bottom is kept and that nobody reading elsewhere is moved.
-/

namespace FlowWatch

/-! ## Offsets after a change of the extent -/

/-- Saturation keeps the order of offsets. -/
lemma Offset.saturate_mono {x y : Int} (h : x ≤ y) : saturate x ≤ saturate y := by
  unfold saturate
  omega

/-- The offset at which a viewport settles when the extent changes from `before` to `after`. -/
def tailTop (wasAtBottom : Bool) (before after : Nat) (v : Viewport) : Int :=
  if wasAtBottom = true ∧ before < after then maxScrollTop after v.height
  else clampScrollTop v.top after v.height

/-- A viewport at or below the highest offset is at the bottom. -/
lemma isAtBottom_of_maxScrollTop_le {v : Viewport} {content : Nat} (epsilon : Nat)
    (h : maxScrollTop content v.height ≤ v.top) : isAtBottom v content epsilon = true := by
  rw [isAtBottom, decide_eq_true_iff]
  apply Offset.saturate_mono
  simp only [maxScrollTop, Offset.ofHeight] at h ⊢
  omega

/-- A viewport stays at the bottom of content that does not grow, if it is not moved upwards. -/
lemma isAtBottom_anti {v : Viewport} {top : Int} {before after epsilon : Nat} (hle : after ≤ before)
    (htop : v.top ≤ top) (h : isAtBottom v before epsilon = true) :
    isAtBottom (v.withTop top) after epsilon = true := by
  rw [isAtBottom, decide_eq_true_iff] at h ⊢
  calc Offset.saturate (Offset.ofHeight after - epsilon)
      ≤ Offset.saturate (Offset.ofHeight before - epsilon) := by
        apply Offset.saturate_mono
        unfold Offset.ofHeight
        omega
    _ ≤ v.bottom := h
    _ ≤ (v.withTop top).bottom := by
        apply Offset.saturate_mono
        rw [Viewport.withTop_top, Viewport.withTop_height]
        omega

/-- A viewport at the bottom is at the bottom again after any change of the extent. -/
lemma isAtBottom_tailTop {v : Viewport} {before epsilon : Nat} (after : Nat)
    (h : isAtBottom v before epsilon = true) :
    isAtBottom (v.withTop (tailTop true before after v)) after epsilon = true := by
  unfold tailTop
  split
  · exact isAtBottom_of_maxScrollTop_le epsilon le_rfl
  · rename_i hshrunk
    rcases le_total v.top (maxScrollTop after v.height) with hin | hpast
    · refine isAtBottom_anti (by simpa using hshrunk) ?_ h
      unfold clampScrollTop
      omega
    · apply isAtBottom_of_maxScrollTop_le
      rw [Viewport.withTop_top, Viewport.withTop_height, clampScrollTop]
      omega

/-- In an extent that fits an offset, a viewport at the bottom follows growth to the very end. -/
lemma tailTop_of_growth {v : Viewport} {before after : Nat} (hgrowth : before < after)
    (hfit : (after : Int) ≤ Offset.highest) :
    tailTop true before after v = max 0 (after - v.height : Int) := by
  rw [tailTop, if_pos ⟨rfl, hgrowth⟩, maxScrollTop, Offset.ofHeight_eq (by omega)]
  omega

/-- In an extent that fits an offset, a viewport elsewhere is moved only as far as it has to be. -/
lemma tailTop_of_elsewhere {v : Viewport} {before after : Nat} (hnonneg : 0 ≤ v.top)
    (hfit : (after : Int) ≤ Offset.highest) :
    tailTop false before after v = min v.top (max 0 (after - v.height : Int)) := by
  rw [tailTop, if_neg (by simp), clampScrollTop, maxScrollTop, Offset.ofHeight_eq (by omega)]
  omega

namespace Controller

/-! ## One call -/

/-- The call replaces the captured sequence, the filter or the measured heights. -/
def Call.changesContents : Call → Bool
  | .dataChanged _ => true
  | .setFilter _ _ => true
  | .setHeightOverrides _ => true
  | _ => false

variable {settings : TableSettings} {told : Contents} {c : Controller} {v : Viewport}

/-- Before a change a measured table remembers whether it is at the bottom, and of which extent. -/
lemma captureAnchor_eq (hv : c.viewport = some v) :
    c.captureAnchor = some (⟨c.atBottom⟩, c.scrollExtent) := by
  simp [captureAnchor, ScrollAnchor.capture, atBottom, hv]

/-- After a change that leaves the viewport alone, the bottom is asked for if the viewport sat there
and the extent has grown. -/
lemma restoredTop_captureAnchor (next : Controller) (hv : c.viewport = some v)
    (hnext : next.viewport = some v) :
    next.restoredTop c.captureAnchor =
      if c.atBottom = true ∧ c.scrollExtent < next.scrollExtent then
        some (maxScrollTop next.scrollExtent v.height)
      else none := by
  rw [captureAnchor_eq hv]
  simp only [restoredTop, Option.bind_some, BottomAnchor.restore, hnext]
  rcases Nat.lt_or_ge c.scrollExtent next.scrollExtent with hgrowth | hshrunk
  · rw [if_neg (Nat.not_le.mpr hgrowth)]
    simp only [hgrowth, and_true, Option.map_some]
  · rw [if_pos hshrunk, if_neg fun h => absurd h.2 (Nat.not_lt.mpr hshrunk)]

/-- After a change that leaves the viewport alone, it settles at `tailTop`. -/
lemma viewport_of_restoredTop (next : Controller) (hv : c.viewport = some v)
    (hnext : next.viewport = some v) (trigger : Trigger) :
    (next.recompute trigger (next.restoredTop c.captureAnchor)).value.1.viewport =
      some (v.withTop (tailTop c.atBottom c.scrollExtent next.scrollExtent v)) := by
  rw [recompute_viewport, hnext, Option.map_some, restoredTop_captureAnchor next hv hnext, tailTop]
  congr 2
  split
  · exact clampScrollTop_eq_self (maxScrollTop_nonneg ..) le_rfl
  · rfl

/-- After a call that changes the contents, the viewport settles at `tailTop`. -/
lemma viewport_of_changesContents (h : Coherent settings told c) (hv : c.viewport = some v)
    {call : Call} (hcall : call.changesContents = true) :
    (c.step call).viewport =
      some (v.withTop (tailTop c.atBottom c.scrollExtent (c.step call).scrollExtent v)) := by
  unfold step stepLogged
  cases call with
  | dataChanged flows =>
    rw [value_onDataChanged, recompute_scrollExtent]
    exact viewport_of_restoredTop (c.withFlows flows) hv hv _
  | setFilter filter flows =>
    by_cases hsame : filter = c.filter
    · subst hsame
      obtain ⟨hlo, hhi⟩ := h.top_mem v hv
      rw [value_setFilter_self, tailTop, if_neg (fun hg => absurd hg.2 (lt_irrefl _)),
        clampScrollTop_eq_self hlo hhi]
      exact hv
    · rw [c.value_setFilter hsame, recompute_scrollExtent]
      exact viewport_of_restoredTop (c.withFilter filter flows) hv hv _
  | setHeightOverrides overrides =>
    rw [value_setHeightOverrides, recompute_scrollExtent]
    exact viewport_of_restoredTop (c.withOverrides overrides) hv hv _
  | _ => cases hcall

/-- In a viewport at the very end of the extent the last row is materialized, wherever the header
ends. -/
lemma last_row_in_window (h : Coherent settings told c) (hv : c.viewport = some v)
    (hover : 1 ≤ settings.overscan) (hheight : 1 ≤ v.height) (hlen : 0 < c.view.len)
    (hfit : (c.scrollExtent : Int) ≤ Offset.highest)
    (htop : v.top = max 0 (c.scrollExtent - v.height : Int)) :
    c.window.contains (c.view.len - 1) = true := by
  have hextent : c.scrollExtent = c.headerHeight + c.contentHeight := rfl
  obtain ⟨last, hlast⟩ : ∃ last, c.view.len = last + 1 := Nat.exists_eq_succ_of_ne_zero hlen.ne'
  rw [h.window_eq hv, hlast, Nat.add_sub_cancel]
  cases hheights : c.heights with
  | none =>
    have hpos := c.rule.rowHeight.pos
    have hcontent := h.contentHeight_uniform hheights
    have hrow : 0 < (last + 1) * c.rule.rowHeight.lines := Nat.mul_pos last.succ_pos hpos
    rw [hlast] at hcontent
    have hsearched := c.rule.uniformTop_eq (last + 1) v (by omega)
    rw [c.rule.compute_none (by omega : 0 < last + 1) hheight]
    apply c.rule.uniform_contains_of_top (by rwa [h.rule_eq]) (by omega : last < last + 1)
    · omega
    · exact WindowCalculator.lt_div_add_rowsCovering hpos hheight (Or.inr (by omega))
  | some x =>
    have hx := h.indexes hheights
    have hcontent := Arranged.contentHeight_measured hheights
    have hlength : (c.metrics.heights c.view.len).length = last + 1 := by
      rw [RowMetrics.length_heights, hlast]
    have hi : last < (c.metrics.heights c.view.len).length := by omega
    have htotal : x.offsetOf (last + 1) = x.total := by rw [← hlength, hx.offsetOf_length]
    have hend := h.offsetOf_succ_measured hheights (i := last) (by omega)
    have hrow : 0 < c.rowHeightOf last := c.metrics.heightOf_pos last
    have hbegin := hx.offsetOf_le_total hi.le
    have hsearched := WindowCalculator.measuredTop_le (x := x) (v := v) (by omega)
      (by omega : v.top ≤ 0 ∨ v.top + v.height ≤ Offset.highest)
    rw [← hlength, c.rule.compute_some hx (by omega) hheight]
    apply WindowCalculator.measured_contains_of_top hx hi
    · omega
    · omega
    · omega
    · exact WindowCalculator.le_measuredTop_add (by omega) hbegin (by omega)

/-- **Live tail and non-interruption.**  When the captured sequence, the filter or the measured
heights are replaced, a viewport at the bottom is at the bottom afterwards, and if the extent has
grown it is at its very end, with the last row in the window.  A viewport elsewhere keeps its top,
unless the extent has become too short for it. -/
theorem live_tail (settings : TableSettings) (calls : List Call) (call : Call) (v : Viewport)
    (hcall : call.changesContents = true)
    (hv : ((ofSettings settings).run calls).viewport = some v)
    (hfit : ((((ofSettings settings).run calls).step call).scrollExtent : Int) ≤ Offset.highest) :
    let c := (ofSettings settings).run calls
    let next := c.step call
    ∃ top : Int, next.viewport = some (v.withTop top) ∧
      (c.atBottom = true →
        next.atBottom = true ∧
          (c.scrollExtent < next.scrollExtent →
            top = max 0 (next.scrollExtent - v.height : Int) ∧
              (1 ≤ settings.overscan → 1 ≤ v.height → 0 < next.view.len →
                next.window.contains (next.view.len - 1) = true))) ∧
      (c.atBottom = false → top = min v.top (max 0 (next.scrollExtent - v.height : Int))) := by
  intro c next
  have h : Coherent settings (.ofCalls calls) c := coherent_run settings calls
  have hnext : Coherent settings ((Contents.ofCalls calls).after call) next := coherent_step h call
  have hviewport := viewport_of_changesContents h hv hcall
  refine ⟨_, hviewport, fun hbottom => ⟨?_, fun hgrowth => ⟨?_, fun hover hheight hlen => ?_⟩⟩,
    fun helsewhere => ?_⟩
  · have hbefore : isAtBottom v c.scrollExtent c.anchor.epsilon = true := by
      rwa [atBottom, hv] at hbottom
    rw [atBottom, hviewport, hbottom, hnext.anchor_eq, ← h.anchor_eq]
    exact isAtBottom_tailTop _ hbefore
  · rw [hbottom]
    exact tailTop_of_growth hgrowth hfit
  · apply last_row_in_window hnext hviewport hover hheight hlen hfit
    rw [hbottom]
    exact tailTop_of_growth hgrowth hfit
  · rw [helsewhere]
    exact tailTop_of_elsewhere (h.top_mem v hv).1 hfit

/-- Three rows and a header reach past the bottom edge by one line; three more arrive, and the
viewport follows them. -/
theorem live_tail_of_doubled_capture :
    let c := (ofSettings ⟨⟨3, by decide⟩, 2, 1, 0⟩).run
      [.resize 10, .dataChanged (Contents.connections 3)]
    let next := c.step (.dataChanged (Contents.connections 6))
    (Call.changesContents (.dataChanged (Contents.connections 6)) = true ∧
      c.viewport = some ⟨1, 10⟩ ∧ (next.scrollExtent : Int) ≤ Offset.highest) ∧
    next.viewport = some ⟨10, 10⟩ ∧ next.window.contains 5 = true := by
  intro c next
  have hv : c.viewport = some ⟨1, 10⟩ := by decide +kernel
  have hfit : (next.scrollExtent : Int) ≤ Offset.highest := by decide +kernel
  obtain ⟨top, hviewport, hbottom, -⟩ := live_tail ⟨⟨3, by decide⟩, 2, 1, 0⟩
    [.resize 10, .dataChanged (Contents.connections 3)] (.dataChanged (Contents.connections 6))
    ⟨1, 10⟩ rfl hv hfit
  obtain ⟨-, hgrowth⟩ := hbottom (by decide +kernel)
  obtain ⟨htop, hlast⟩ := hgrowth (by decide +kernel)
  have hten : top = 10 := htop.trans (by decide +kernel)
  refine ⟨⟨rfl, hv, hfit⟩, ?_, hlast (by decide) (by decide) (by decide +kernel)⟩
  rw [hten] at hviewport
  exact hviewport

end Controller

end FlowWatch
