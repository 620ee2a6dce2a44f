import FlowWatch.Log.Event
import FlowWatch.Log.FieldValue
import FlowWatch.Text.Blank

/-!
# Log filters

Which events reach the log.  A filter is a list of directives, the most specific first; the first
one whose target begins the name of the speaker decides.  A directive on a span lets nothing
through, since no event stands in one.
-/

namespace FlowWatch.Log

/-- The least level that is let through, if any is. -/
abbrev Threshold := Option Level

namespace Threshold

/-- The name under which directives write a threshold. -/
def name : Threshold → String
  | none => "off"
  | some level => level.name.toLower

/-- The thresholds in the order of the digits that stand for them. -/
def all : List Threshold := [none, some .error, some .warn, some .info, some .debug, some .trace]

/-- The threshold that a text stands for, by digit or by name in either case. -/
def ofText? (cs : List Char) : Option Threshold :=
  match Text.readNumeral 5 cs with
  | .ok n => all[n]?
  | .error _ => all.find? fun t => t.name == (String.ofList cs).toLower

/-- A level is let through. -/
def admits (t : Threshold) (level : Level) : Bool :=
  match t with
  | none => false
  | some least => least.rank ≤ level.rank

end Threshold

/-- A field that an event must have; with a value, the directive is on spans alone. -/
structure FieldMatch where
  name : String
  value : Option FieldValue
deriving DecidableEq, Repr

namespace FieldMatch

/-- Reads a name, and a value after an equals sign; what follows a second one is passed over. -/
def read? (cs : List Char) : Option FieldMatch :=
  match cs.splitOn '=' with
  | name :: value :: _ => (FieldValue.read? value).map fun value => ⟨String.ofList name, some value⟩
  | _ => some ⟨String.ofList cs, none⟩

/-- The field as it is written. -/
def text (m : FieldMatch) : String := m.name ++ (match m.value with
  | some value => "=" ++ value.text
  | none => "")

/-- Fields with a value come after those without. -/
def order (m n : FieldMatch) : Ordering :=
  ((compare m.value.isSome n.value.isSome).then (compare m.name n.name)).then
    (match m.value, n.value with
      | some v, some w => v.order w
      | _, _ => .eq)

end FieldMatch

/-! ## Cutting texts

A directive is cut at positions that are counted in bytes.
-/

/-- The bytes that a text takes. -/
def byteCount (cs : List Char) : Nat := cs.foldr (fun c n => c.utf8Size + n) 0

/-- Drops so many bytes; none if that would cut a character. -/
def dropBytes? : List Char → Nat → Option (List Char)
  | cs, 0 => some cs
  | [], _ + 1 => none
  | c :: cs, n => if c.utf8Size ≤ n then dropBytes? cs (n - c.utf8Size) else none

/-- Takes so many bytes; none if that would cut a character. -/
def takeBytes? : List Char → Nat → Option (List Char)
  | _, 0 => some []
  | [], _ + 1 => none
  | c :: cs, n => if c.utf8Size ≤ n then (takeBytes? cs (n - c.utf8Size)).map (c :: ·) else none

/-- The two parts of a text cut at a position make up the text. -/
theorem takeBytes?_append_dropBytes? {cs before after : List Char} {n : Nat}
    (hb : takeBytes? cs n = some before) (ha : dropBytes? cs n = some after) :
    before ++ after = cs := by
  induction cs generalizing n before with
  | nil =>
    cases n with
    | zero =>
      simp only [takeBytes?, dropBytes?, Option.some.injEq] at hb ha
      simp [← hb, ← ha]
    | succ n => simp [takeBytes?] at hb
  | cons c cs ih =>
    cases n with
    | zero =>
      simp only [takeBytes?, dropBytes?, Option.some.injEq] at hb ha
      simp [← hb, ← ha]
    | succ n =>
      simp only [takeBytes?, dropBytes?] at hb ha
      split at hb
      · obtain ⟨rest, hr, rfl⟩ := Option.map_eq_some_iff.1 hb
        simp [ih hr (by simpa [*] using ha)]
      · simp at hb

/-- The text between two positions. -/
def cut? (cs : List Char) (start stop : Nat) : Option (List Char) := do
  takeBytes? (← dropBytes? cs start) (stop - start)

/-- What is let through of the speakers whose names begin with a target. -/
structure Directive where
  target : Option String
  span : Option String
  field : Option FieldMatch
  threshold : Threshold
deriving DecidableEq, Repr

namespace Directive

/-- A directive may start with this character, or with a bracket. -/
def isStart (c : Char) : Bool := c == '-' || c == ':' || c == '_' || Text.isLetterOrNumber c

/-- Reads the threshold after an equals sign; nothing stands for everything. -/
def readThreshold : List Char → Option Threshold
  | [] => some (some .trace)
  | cs => Threshold.ofText? cs

/-- Ends a directive: `rest` is what stands in the trimmed text from `position`. -/
def close (d : Directive) (raw : List Char) (position : Nat) (rest : List Char) :
    Option Directive :=
  match rest with
  | [] => some d
  | '=' :: _ => do
    return { d with threshold := ← readThreshold (← dropBytes? raw (position + 1)) }
  | _ => none

/-- Reads the span and the field between brackets; `cs` is what stands in the trimmed text from
`start`, after the opening one. -/
def readScope (target : Option String) (raw : List Char) (start : Nat) (cs : List Char) :
    Option Directive := do
  let isEnd (c : Char) : Bool := c == ']' || c == '\x7b'
  let stop := start + byteCount (cs.takeWhile (!isEnd ·))
  match cs.dropWhile (!isEnd ·) with
  | ']' :: rest =>
    let name ← cut? raw start stop
    close ⟨target, some (String.ofList name), none, some .trace⟩ raw (stop + 1) rest
  | _ :: inner =>
    let name ← cut? raw start stop
    let last := stop + 1 + byteCount (inner.takeWhile (· != '\x7d'))
    match inner.dropWhile (· != '\x7d') with
    | '\x7d' :: rest =>
      let field ← cut? raw (stop + 1) last
      if field.isEmpty then none
      else
        let field ← FieldMatch.read? field
        let span := if name.isEmpty then none else some (String.ofList name)
        match rest with
        | ']' :: rest => close ⟨target, span, some field, some .trace⟩ raw (last + 2) rest
        | _ => none
    | _ => none
  | [] => none

/-- Reads a directive.  Its shape is that of the text without blanks around it, but its parts are
cut from the text as given, at the same positions: a blank in front moves them. -/
def read (raw : List Char) : Option Directive :=
  let cs := Text.trim raw
  match cs with
  | [] => none
  | '[' :: rest => readScope none raw 1 rest
  | c :: _ =>
    if !isStart c then none
    else
      let isEnd (c : Char) : Bool := c == '=' || c == '['
      let count := byteCount (cs.takeWhile (!isEnd ·))
      match cs.dropWhile (!isEnd ·) with
      | [] =>
        match Threshold.ofText? raw with
        | some threshold => some ⟨none, none, none, threshold⟩
        | none => some ⟨some (String.ofList raw), none, none, some .trace⟩
      | rest => do
        let target := String.ofList (← cut? raw 0 count)
        match rest with
        | '[' :: rest => readScope (some target) raw (count + 1) rest
        | rest => close ⟨some target, none, none, none⟩ raw count rest

/-- The directive as it is written. -/
def text (d : Directive) : String :=
  let scope := d.span.getD "" ++ (match d.field with
    | some field => "\x7b" ++ field.text ++ "\x7d"
    | none => "")
  let place := d.target.getD "" ++
    (if d.span.isSome || d.field.isSome then "[" ++ scope ++ "]" else "")
  (if place = "" then "" else place ++ "=") ++ d.threshold.name

/-- The order from the least to the most specific directive: by the length of the target, then by
the presence of a span and of a field, then by their texts. -/
def order (d e : Directive) : Ordering :=
  [compare (d.target.map String.utf8ByteSize) (e.target.map String.utf8ByteSize),
    compare d.span.isSome e.span.isSome, compare d.field.isSome e.field.isSome,
    compare d.target e.target, compare d.span e.span,
    match d.field, e.field with
    | some m, some n => m.order n
    | _, _ => .eq].foldl Ordering.then .eq

/-- The directive is on spans, or on fields and thereby also on spans. -/
def isOnSpans (d : Directive) : Bool := d.span.isSome || d.field.isSome

/-- The directive is on events: no span is named, and no value of a field. -/
def isOnEvents (d : Directive) : Bool :=
  d.span.isNone && d.field.all fun m => m.value.isNone

/-- The directive speaks of an event. -/
def concerns (d : Directive) (e : Event) : Bool :=
  d.target.all (fun target => target.toList.isPrefixOf e.speaker.target.toList) &&
    d.field.all fun m => m.name == "message" || e.fields.any fun (name, _) => name == m.name

end Directive

/-- Adds a directive at its place, after the more specific ones; an earlier one of the same place is
lost. -/
def insertDirective (d : Directive) : List Directive → List Directive
  | [] => [d]
  | e :: rest =>
    match d.order e with
    | .eq => d :: rest
    | .gt => d :: e :: rest
    | .lt => e :: insertDirective d rest

/-- The directives of a filter, the most specific first: those on events, and those on spans. -/
structure Filter where
  onEvents : List Directive
  onSpans : List Directive
deriving DecidableEq, Repr

namespace Filter

/-- The filter of a list of directives. -/
def ofDirectives (ds : List Directive) : Filter where
  onEvents := (ds.filter Directive.isOnEvents).foldl (fun es d => insertDirective d es) []
  onSpans := (ds.filter Directive.isOnSpans).foldl (fun es d => insertDirective d es) []

/-- The filter that lets events from a level on through. -/
def ofLevel (level : Level) : Filter := .ofDirectives [⟨none, none, none, some level⟩]

/-- Reads directives with commas between them; without any, nothing is let through. -/
def read? (text : String) : Option Filter :=
  let parts := ((text.splitOn ",").filter (· ≠ "")).map String.toList
  (parts.mapM Directive.read).map ofDirectives

/-- The filter that a variable asks for.  Without one, and with one that cannot be read, events from
the information level on are let through. -/
def ofVariable (value : Option String) : Filter := (value.bind read?).getD (ofLevel .info)

/-- The filter as it is written. -/
def text (f : Filter) : String := ",".intercalate ((f.onEvents ++ f.onSpans).map Directive.text)

/-- An event is let through. -/
def admits (f : Filter) (e : Event) : Bool :=
  match f.onEvents.find? fun d => d.concerns e with
  | some d => d.threshold.admits e.level
  | none => false

end Filter

end FlowWatch.Log
