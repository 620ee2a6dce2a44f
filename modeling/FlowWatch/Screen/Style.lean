/-!
# Cell styles

Colours, modifiers and styles.  A `Style` is a change to what a cell looks like: the colours it
leaves open and the modifiers it does not name stay as they are.  `Style.patch` composes changes,
the later one last.
-/

namespace FlowWatch.Screen

/-- A terminal colour. -/
inductive Color where
  | reset
  | red
  | green
  | yellow
  | blue
  | magenta
  | cyan
  | gray
  | darkGray
  | lightMagenta
  | rgb (red green blue : Nat)
deriving DecidableEq, Repr

/-- The name under which a colour is written. -/
def Color.name : Color → String
  | reset => "Reset"
  | red => "Red"
  | green => "Green"
  | yellow => "Yellow"
  | blue => "Blue"
  | magenta => "Magenta"
  | cyan => "Cyan"
  | gray => "Gray"
  | darkGray => "DarkGray"
  | lightMagenta => "LightMagenta"
  | rgb r g b => s!"Rgb({r}, {g}, {b})"

/-- A set of text modifiers. -/
structure Modifiers where
  bold : Bool
  dim : Bool
  reversed : Bool
deriving DecidableEq, Repr

namespace Modifiers

/-- No modifier. -/
def none : Modifiers := ⟨false, false, false⟩

/-- Bold text alone. -/
def boldOnly : Modifiers := ⟨true, false, false⟩

/-- Dim text alone. -/
def dimOnly : Modifiers := ⟨false, true, false⟩

/-- Reverse video alone. -/
def reversedOnly : Modifiers := ⟨false, false, true⟩

/-- The modifiers of either set. -/
def union (a b : Modifiers) : Modifiers :=
  ⟨a.bold || b.bold, a.dim || b.dim, a.reversed || b.reversed⟩

/-- The modifiers of the first set that the second lacks. -/
def without (a b : Modifiers) : Modifiers :=
  ⟨a.bold && !b.bold, a.dim && !b.dim, a.reversed && !b.reversed⟩

/-- The modifiers by name, with a bar between them. -/
def describe (m : Modifiers) : String :=
  let names := (if m.bold then ["BOLD"] else []) ++ (if m.dim then ["DIM"] else []) ++
    (if m.reversed then ["REVERSED"] else [])
  if names.isEmpty then "NONE" else " | ".intercalate names

@[simp]
theorem union_none (a : Modifiers) : a.union none = a := by simp [union, none]

@[simp]
theorem none_union (a : Modifiers) : none.union a = a := by simp [union, none]

@[simp]
theorem without_none (a : Modifiers) : a.without none = a := by simp [without, none]

end Modifiers

/-- A change of a cell's looks. -/
structure Style where
  foreground : Option Color
  background : Option Color
  added : Modifiers
  removed : Modifiers
deriving DecidableEq, Repr

namespace Style

/-- The style that changes nothing. -/
def plain : Style := ⟨none, none, .none, .none⟩

instance : Inhabited Style := ⟨plain⟩

/-- The style that only sets the foreground. -/
def colored (color : Color) : Style := { plain with foreground := some color }

/-- The style that only adds modifiers. -/
def adding (modifiers : Modifiers) : Style := { plain with added := modifiers }

/-- The same style with another foreground. -/
def withForeground (s : Style) (color : Color) : Style := { s with foreground := some color }

/-- The style that has the effect of `s` and then of `t`. -/
def patch (s t : Style) : Style where
  foreground := t.foreground.or s.foreground
  background := t.background.or s.background
  added := (s.added.without t.removed).union t.added
  removed := (s.removed.without t.added).union t.removed

@[simp]
theorem patch_plain (s : Style) : s.patch plain = s := by simp [patch, plain]

@[simp]
theorem plain_patch (s : Style) : plain.patch s = s := by
  simp [patch, plain, Modifiers.without, Modifiers.union, Modifiers.none]

end Style

/-- What a cell looks like. -/
structure Looks where
  foreground : Color
  background : Color
  modifiers : Modifiers
deriving DecidableEq, Repr

namespace Looks

/-- The terminal's own colours and no modifier. -/
def blank : Looks := ⟨.reset, .reset, .none⟩

/-- The looks after a change. -/
def apply (looks : Looks) (style : Style) : Looks where
  foreground := style.foreground.getD looks.foreground
  background := style.background.getD looks.background
  modifiers := (looks.modifiers.union style.added).without style.removed

@[simp]
theorem apply_plain (looks : Looks) : looks.apply .plain = looks := by
  simp [apply, Style.plain]

end Looks

end FlowWatch.Screen
