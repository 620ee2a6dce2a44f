/-!
# Log events

What the program notes about its own work.  An `Event` is a level, the part of the program that
speaks, a message, and named fields in the order in which they are written.

`Logged α` is a value together with the events noted while it was computed.  Every law about the
computation itself is a law about `Logged.value`: the projection commutes with `pure`, `bind` and
`note`, so events never influence a value.
-/

namespace FlowWatch

namespace Log

/-- How much an event matters, from the finest detail to a failure. -/
inductive Level where
  | trace
  | debug
  | info
  | warn
  | error
deriving DecidableEq, Repr

namespace Level

/-- The name under which a level is written. -/
def name : Level → String
  | trace => "TRACE"
  | debug => "DEBUG"
  | info => "INFO"
  | warn => "WARN"
  | error => "ERROR"

/-- The rank of a level: the higher, the more it matters. -/
def rank : Level → Nat
  | trace => 0
  | debug => 1
  | info => 2
  | warn => 3
  | error => 4

end Level

/-- The part of the program that notes an event. -/
inductive Speaker where
  | program
  | screen
  | controller
  | window
  | store
  | capture
deriving DecidableEq, Repr

/-- The path under which log lines and log filters name a speaker. -/
def Speaker.target : Speaker → String
  | .program => "flowview"
  | .screen => "flowview::view"
  | .controller => "flowview::view_state::controller"
  | .window => "flowview::view_state::window"
  | .store => "flowview::store"
  | .capture => "flowview::source::file"

/-- One noted event; `fields` are name and text, in the order in which they are written. -/
structure Event where
  level : Level
  speaker : Speaker
  message : String
  fields : List (String × String)
deriving DecidableEq, Repr

end Log

/-- A value and the events noted while it was computed, oldest first. -/
structure Logged (α : Type) where
  value : α
  events : List Log.Event

namespace Logged

variable {α β : Type}

/-- The events of two computations; it takes no work if the second one notes nothing. -/
def concat (before after : List Log.Event) : List Log.Event :=
  if after.isEmpty then before else before ++ after

@[simp]
theorem concat_eq_append (before after : List Log.Event) :
    concat before after = before ++ after := by
  cases after <;> simp [concat]

instance : Monad Logged where
  pure a := ⟨a, []⟩
  bind
    | ⟨a, before⟩, f =>
      let ⟨b, after⟩ := f a
      ⟨b, concat before after⟩

/-- Notes one event. -/
def note (event : Log.Event) : Logged Unit := ⟨(), [event]⟩

/-- Notes a list of events in order. -/
def noteAll (events : List Log.Event) : Logged Unit := ⟨(), events⟩

@[simp]
theorem value_pure (a : α) : (pure a : Logged α).value = a := rfl

@[simp]
theorem value_bind (x : Logged α) (f : α → Logged β) : (x >>= f).value = (f x.value).value := rfl

/-- What notes nothing adds nothing to what comes after it. -/
theorem pure_bind (a : α) (f : α → Logged β) : (pure a >>= f) = f a :=
  congrArg (Logged.mk (f a).value) (concat_eq_append [] (f a).events)

@[simp]
theorem value_map (f : α → β) (x : Logged α) : (f <$> x).value = f x.value := rfl

@[simp]
theorem value_note (event : Log.Event) : (note event).value = () := rfl

@[simp]
theorem value_noteAll (events : List Log.Event) : (noteAll events).value = () := rfl

@[simp]
theorem events_pure (a : α) : (pure a : Logged α).events = [] := rfl

@[simp]
theorem events_bind (x : Logged α) (f : α → Logged β) :
    (x >>= f).events = x.events ++ (f x.value).events := concat_eq_append ..

end Logged

end FlowWatch
