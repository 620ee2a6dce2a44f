import FlowWatch.Flow.Basic
import FlowWatch.Table.Geometry

/-!
# Keys

Key events, the actions that a user can ask for, and which keys ask for which action.  Case and the
shift key say the same thing of an ASCII letter: `KeyEvent.normalize` gives such events one form,
and bindings are looked up by it.
-/

namespace FlowWatch

/-- A key: one that writes a character, or any other by name. -/
inductive KeyCode where
  | char (c : Char)
  | named (name : String)
deriving DecidableEq, Repr

/-- The key with a name; a single character is the key that writes it. -/
def KeyCode.ofText (text : String) : KeyCode :=
  match text.toList with
  | [c] => .char c
  | _ => .named text

/-- The keys held down together with another. -/
structure KeyModifiers where
  shift : Bool
  control : Bool
  alt : Bool
deriving DecidableEq, Repr

namespace KeyModifiers

/-- No key. -/
def none : KeyModifiers := ⟨false, false, false⟩

/-- The keys with given names. -/
def ofNames (names : List String) : KeyModifiers :=
  ⟨names.contains "shift", names.contains "ctrl", names.contains "alt"⟩

end KeyModifiers

/-- A key pressed with others held down.  Whether it is pressed, repeated or released makes no
difference. -/
structure KeyEvent where
  code : KeyCode
  modifiers : KeyModifiers
deriving DecidableEq, Repr

namespace KeyEvent

/-- The event with an upper case letter and the shift key, if either is there. -/
def normalize (e : KeyEvent) : KeyEvent :=
  match e.code with
  | .char c =>
    if c.isUpper then { e with modifiers := { e.modifiers with shift := true } }
    else if e.modifiers.shift then { e with code := .char c.toUpper }
    else e
  | .named _ => e

end KeyEvent

/-- What a user can ask for. -/
inductive KeyAction where
  | selectNext
  | selectPrev
  | selectPageDown
  | selectPageUp
  | selectLast
  | selectFirst
  | clearSelection
  | scrollUp
  | scrollDown
  | toggleKind (kind : Kind)
  | cycleDirection
  | resetFilter
  | quit
deriving DecidableEq, Repr

namespace KeyAction

/-- How far an action moves the selection, if it moves it. -/
def selectionShift : KeyAction → Option Int
  | selectNext => some 1
  | selectPrev => some (-1)
  | selectPageDown => some 10
  | selectPageUp => some (-10)
  | selectLast => some Offset.highest
  | selectFirst => some Offset.lowest
  | _ => none

/-- The name of an action. -/
def name : KeyAction → String
  | selectNext => "SelectNext"
  | selectPrev => "SelectPrev"
  | selectPageDown => "SelectPageDown"
  | selectPageUp => "SelectPageUp"
  | selectLast => "SelectLast"
  | selectFirst => "SelectFirst"
  | clearSelection => "ClearSelection"
  | scrollUp => "ScrollUp"
  | scrollDown => "ScrollDown"
  | toggleKind kind => s!"ToggleKind({kind.noteName})"
  | cycleDirection => "CycleDirection"
  | resetFilter => "ResetFilter"
  | quit => "Quit"

/-- Every action. -/
def all : List KeyAction :=
  [selectNext, selectPrev, selectPageDown, selectPageUp, selectLast, selectFirst, clearSelection,
    scrollUp, scrollDown, cycleDirection, resetFilter, quit] ++ Kind.all.map toggleKind

/-- The action with a name. -/
def ofName? (name : String) : Option KeyAction := all.find? fun action => action.name == name

theorem mem_all (action : KeyAction) : action ∈ all := by
  cases action with
  | toggleKind kind => simp [all, Kind.mem_all]
  | _ => simp [all]

end KeyAction

/-- Keys and the actions that they ask for, the binding made last first. -/
structure KeyBindings where
  bindings : List (KeyEvent × KeyAction)

namespace KeyBindings

/-- Binds a key; an earlier binding of it is lost. -/
def bind (b : KeyBindings) (key : KeyEvent) (action : KeyAction) : KeyBindings :=
  ⟨(key.normalize, action) :: b.bindings⟩

/-- The action of a key, if it has one. -/
def get? (b : KeyBindings) (key : KeyEvent) : Option KeyAction := b.bindings.lookup key.normalize

/-- The keys that ask for an action by default. -/
def defaults : List (KeyEvent × KeyAction) :=
  let plain (c : Char) : KeyEvent := ⟨.char c, .none⟩
  let named (name : String) : KeyEvent := ⟨.named name, .none⟩
  let control (c : Char) : KeyEvent := ⟨.char c, ⟨false, true, false⟩⟩
  [(plain 'j', .selectNext), (named "Down", .selectNext), (plain 'k', .selectPrev),
    (named "Up", .selectPrev), (named "PageDown", .selectPageDown), (plain ' ', .selectPageDown),
    (named "PageUp", .selectPageUp), (plain 'g', .selectFirst), (named "Home", .selectFirst),
    (plain 'G', .selectLast), (named "End", .selectLast), (named "Esc", .clearSelection),
    (control 'e', .scrollDown), (control 'y', .scrollUp), (plain '1', .toggleKind .http),
    (plain '2', .toggleKind .tcp), (plain '3', .toggleKind .udp), (plain '4', .toggleKind .dns),
    (plain 'd', .cycleDirection), (plain 'a', .resetFilter), (plain 'q', .quit),
    (control 'c', .quit)]

/-- The default bindings. -/
def standard : KeyBindings := defaults.foldl (fun b (key, action) => b.bind key action) ⟨[]⟩

@[simp]
theorem get?_bind_self (b : KeyBindings) (key : KeyEvent) (action : KeyAction) :
    (b.bind key action).get? key = some action := by
  simp [bind, get?]

theorem get?_bind_of_ne (b : KeyBindings) {key other : KeyEvent} (action : KeyAction)
    (h : other.normalize ≠ key.normalize) : (b.bind key action).get? other = b.get? other := by
  have hne : (other.normalize == key.normalize) = false := by simpa using h
  simp [bind, get?, List.lookup_cons, hne]

end KeyBindings

/-- What a mouse does. -/
inductive MouseKind where
  | wheelUp
  | wheelDown
  | leftPress
  | other
deriving DecidableEq, Repr

/-- A mouse event at a cell. -/
structure MouseEvent where
  kind : MouseKind
  column : Nat
  row : Nat
deriving DecidableEq, Repr

end FlowWatch
