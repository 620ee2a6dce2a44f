import FlowWatch.Flow.Basic

/-!
# Filters

Which captured flows are shown: a set of kinds, and a direction that only constrains directional
kinds.
-/

namespace FlowWatch

/-- Which half of an HTTP exchange has to be present. -/
inductive Direction where
  /-- No constraint. -/
  | both
  /-- A response has been captured. -/
  | inbound
  /-- A request has been captured and no response yet. -/
  | outbound
deriving DecidableEq, Repr

namespace Direction

/-- The next direction when the user steps through them. -/
def cycle : Direction → Direction
  | both => inbound
  | inbound => outbound
  | outbound => both

/-- The name under which the screen shows it. -/
def name : Direction → String
  | both => "Both"
  | inbound => "Inbound"
  | outbound => "Outbound"

/-- The direction lets an exchange through, by which halves have been captured. -/
def admits (d : Direction) (hasRequest hasResponse : Bool) : Bool :=
  match d with
  | both => true
  | outbound => hasRequest && !hasResponse
  | inbound => hasResponse

@[simp]
theorem cycle_cycle_cycle (d : Direction) : d.cycle.cycle.cycle = d := by
  cases d <;> rfl

end Direction

/-- The kinds and the direction that are shown. -/
structure FilterSpec where
  http : Bool
  tcp : Bool
  udp : Bool
  dns : Bool
  direction : Direction
deriving DecidableEq, Repr

namespace FilterSpec

/-- Every kind in both directions. -/
def everything : FilterSpec := ⟨true, true, true, true, .both⟩

instance : Inhabited FilterSpec := ⟨everything⟩

/-- The given kinds in a direction. -/
def ofKinds (kinds : List Kind) (direction : Direction) : FilterSpec where
  http := kinds.contains .http
  tcp := kinds.contains .tcp
  udp := kinds.contains .udp
  dns := kinds.contains .dns
  direction := direction

/-- The kind is shown. -/
def hasKind (spec : FilterSpec) : Kind → Bool
  | .http => spec.http
  | .tcp => spec.tcp
  | .udp => spec.udp
  | .dns => spec.dns

/-- The kinds that are shown, in the order in which kinds are shown. -/
def kinds (spec : FilterSpec) : List Kind := Kind.all.filter spec.hasKind

/-- The filter lets every flow through. -/
def isIdentity (spec : FilterSpec) : Bool := spec == everything

/-- The same filter with one kind flipped. -/
def toggled (spec : FilterSpec) : Kind → FilterSpec
  | .http => { spec with http := !spec.http }
  | .tcp => { spec with tcp := !spec.tcp }
  | .udp => { spec with udp := !spec.udp }
  | .dns => { spec with dns := !spec.dns }

/-- The same filter in another direction. -/
def withDirection (spec : FilterSpec) (direction : Direction) : FilterSpec :=
  { spec with direction }

/-- The same filter in the next direction. -/
def cycled (spec : FilterSpec) : FilterSpec := spec.withDirection spec.direction.cycle

/-- The flow is shown. -/
def admits (spec : FilterSpec) (f : Flow) : Bool :=
  spec.hasKind f.kind &&
    (!f.kind.isDirectional || spec.direction.admits f.hasRequest f.hasResponse)

/-- The flows that are shown, in their order. -/
def apply (spec : FilterSpec) (flows : Array Flow) : Array Flow := flows.filter spec.admits

/-- The filter as notes write it. -/
def describe (spec : FilterSpec) : String :=
  let names := String.intercalate ", " (spec.kinds.map Kind.noteName)
  "FilterSpec \x7b kinds: \x7b" ++ names ++ "\x7d, direction: " ++ spec.direction.name ++ " \x7d"

@[simp]
theorem hasKind_toggled (spec : FilterSpec) (k l : Kind) :
    (spec.toggled k).hasKind l = (if k = l then !spec.hasKind l else spec.hasKind l) := by
  cases k <;> cases l <;> rfl

@[simp]
theorem toggled_toggled (spec : FilterSpec) (k : Kind) : (spec.toggled k).toggled k = spec := by
  cases k <;> simp [toggled]

theorem admits_everything (f : Flow) : everything.admits f = true := by
  cases hk : f.kind <;> simp [admits, everything, hasKind, Direction.admits, hk]

end FilterSpec

end FlowWatch
