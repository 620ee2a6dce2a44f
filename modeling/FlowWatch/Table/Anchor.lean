import FlowWatch.Table.Geometry

/-!
# Bottom anchoring

A viewport that sits at the bottom of its content stays there while the content grows.  Whether it
sits there is measured before a change, and the offset that brings it back is computed from the
content after it; measured afterwards, the intent would be lost.
-/

namespace FlowWatch

/-- Slack below which a viewport still counts as at the bottom, unless a table asks for another. -/
def defaultBottomEpsilon : Nat := 0

/-- The viewport reaches the end of the content, but for `epsilon` lines. -/
def isAtBottom (v : Viewport) (content epsilon : Nat) : Bool :=
  Offset.saturate (Offset.ofHeight content - epsilon) ≤ v.bottom

/-- The anchoring of one table, given by its slack. -/
structure ScrollAnchor where
  epsilon : Nat
deriving DecidableEq, Repr

/-- Whether the viewport sat at the bottom before a change. -/
structure BottomAnchor where
  wasAtBottom : Bool
deriving DecidableEq, Repr

namespace ScrollAnchor

/-- Anchoring with the default slack. -/
def default : ScrollAnchor := ⟨defaultBottomEpsilon⟩

instance : Inhabited ScrollAnchor := ⟨default⟩

/-- Measures before a change; a container that has not been measured yet is not anchored. -/
def capture (a : ScrollAnchor) (viewport : Option Viewport) (content : Nat) :
    Option BottomAnchor :=
  viewport.map fun v => ⟨isAtBottom v content a.epsilon⟩

end ScrollAnchor

/-- The offset that brings the viewport back to the bottom after a change. -/
def BottomAnchor.restore (b : BottomAnchor) (viewport : Option Viewport) (content : Nat) :
    Option Int :=
  if b.wasAtBottom then viewport.map fun v => maxScrollTop content v.height else none

end FlowWatch
