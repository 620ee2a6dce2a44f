import FlowWatch.Text.Blank
import FlowWatch.Text.Letters

/-!
# Patterns

The values of fields may be given as regular expressions.  No event of this library carries a value
that one is held against, so all that matters is which texts are patterns: `isPattern` reads a text
from left to right and keeps only what a later character could be refused for.  The classes of
Unicode and the folding of its cases are not known, so a pattern that asks for them is refused; both
are known for ASCII, to which the flag `u` can restrict a part of a pattern.
-/

namespace FlowWatch.Log.Pattern

/-- The flags that decide which characters a part of a pattern may hold. -/
structure Flags where
  /-- Characters are those of Unicode, not bytes. -/
  unicode : Bool
  /-- Upper and lower case are the same. -/
  caseless : Bool
  /-- Blanks and remarks stand between the parts of the pattern. -/
  spaced : Bool
deriving DecidableEq, Repr

namespace Flags

/-- The flags of a pattern at its start. -/
def start : Flags := ⟨true, false, false⟩

/-- Sets the flag of a letter; the others change nothing that matters here. -/
def set (f : Flags) (letter : Char) (value : Bool) : Flags :=
  match letter with
  | 'u' => { f with unicode := value }
  | 'i' => { f with caseless := value }
  | 'x' => { f with spaced := value }
  | _ => f

/-- The character may stand for itself: its case need not be folded, and as a byte it is ASCII. -/
def admitsLiteral (f : Flags) (c : Char) : Bool :=
  if f.unicode then !f.caseless else c.toNat < 128

/-- The set between brackets may stand here: its case need not be folded, and it holds no byte
beyond ASCII. -/
def admitsSet (f : Flags) (isNegated : Bool) : Bool :=
  if f.unicode then !f.caseless else !isNegated

/-- The class with a letter of its own may stand here. -/
def admitsShorthand (f : Flags) (isNegated : Bool) : Bool := !f.unicode && !isNegated

end Flags

/-! ## Blanks and remarks -/

/-- Skips blanks, and remarks from a sharp to the end of the line. -/
def skipRemarks (inRemark : Bool) : List Char → List Char
  | [] => []
  | c :: cs =>
    if inRemark then skipRemarks (c != '\n') cs
    else if c == '#' then skipRemarks true cs
    else if Text.isBlank c then skipRemarks false cs
    else c :: cs

/-- Skips what the flags allow to skip. -/
def Flags.skip (f : Flags) (cs : List Char) : List Char :=
  if f.spaced then skipRemarks false cs else cs

/-! ## Escapes -/

/-- What a backslash and the characters after it stand for. -/
inductive Escape where
  | literal (c : Char)
  /-- A class with a letter of its own. -/
  | shorthand (isNegated : Bool)
  /-- A place at an edge of a word, or at none. -/
  | wordEdge
  /-- The start or the end of the text. -/
  | textEdge
deriving DecidableEq, Repr

/-- The value of a digit in base sixteen. -/
def hexValue? (c : Char) : Option Nat :=
  if c.isDigit then some (c.toNat - '0'.toNat)
  else if 'a' ≤ c && c ≤ 'f' then some (c.toNat - 'a'.toNat + 10)
  else if 'A' ≤ c && c ≤ 'F' then some (c.toNat - 'A'.toNat + 10)
  else none

/-- Reads so many digits in base sixteen after a number read so far. -/
def readHex (f : Flags) : Nat → Nat → List Char → Option (Nat × List Char)
  | 0, value, cs => some (value, f.skip cs)
  | count + 1, value, cs =>
    match f.skip cs with
    | [] => none
    | c :: rest => do readHex f count (value * 16 + (← hexValue? c)) rest

/-- Reads the character with a number of so many digits. -/
def readCode (f : Flags) (count : Nat) (cs : List Char) : Option (Escape × List Char) := do
  let (value, rest) ← readHex f count 0 cs
  if value.isValidChar then some (.literal (Char.ofNat value), rest) else none

/-- Punctuation and the other signs of ASCII stand for themselves behind a backslash. -/
def isSign (c : Char) : Bool := c.toNat < 128 && !c.isAlphanum && c != '<' && c != '>'

/-- The control character that a letter stands for behind a backslash. -/
def namedControl? : Char → Option Char
  | 'a' => some '\x07'
  | 't' => some '\t'
  | 'n' => some '\n'
  | 'v' => some '\x0b'
  | 'f' => some '\x0c'
  | 'r' => some '\r'
  | _ => none

/-- Reads what stands behind a backslash. -/
def readEscape (f : Flags) : List Char → Option (Escape × List Char)
  | [] => none
  | c :: rest =>
    if c == 'x' then readCode f 2 rest
    else if c == 'u' then readCode f 4 rest
    else if c == 'U' then readCode f 8 rest
    else if "dsw".toList.contains c then some (.shorthand false, rest)
    else if "DSW".toList.contains c then some (.shorthand true, rest)
    else if "bB<>".toList.contains c then some (.wordEdge, rest)
    else if "Az".toList.contains c then some (.textEdge, rest)
    else if isSign c then some (.literal c, rest)
    else (namedControl? c).map fun control => (.literal control, rest)

/-! ## Sets between brackets -/

/-- The classes of ASCII that have a name. -/
def asciiClasses : List String :=
  ["alnum", "alpha", "ascii", "blank", "cntrl", "digit", "graph", "lower", "print", "punct",
    "space", "upper", "word", "xdigit"]

/-- Reads a class of ASCII by name, after its opening bracket; the answer tells whether it is
negated. -/
def readAsciiClass? : List Char → Option (Bool × List Char)
  | ':' :: cs =>
    let (isNegated, cs) := match cs with
      | '^' :: cs => (true, cs)
      | cs => (false, cs)
    match cs.dropWhile (· != ':') with
    | ':' :: ']' :: rest =>
      if asciiClasses.contains (String.ofList (cs.takeWhile (· != ':'))) then some (isNegated, rest)
      else none
    | _ => none
  | _ => none

/-- Reads one member of a set. -/
def readMember (f : Flags) : List Char → Option (Escape × List Char)
  | [] => none
  | '\\' :: cs => readEscape f cs
  | c :: cs => some (.literal c, cs)

/-- Reads a member of a set, or a range of characters. -/
def readRange (f : Flags) (cs : List Char) : Option (List Char) := do
  let (first, rest) ← readMember f cs
  let alone : Option (List Char) := match first with
    | .literal c => if f.admitsLiteral c then some rest else none
    | .shorthand isNegated => if f.admitsShorthand isNegated then some rest else none
    | _ => none
  match f.skip rest with
  | [] => none
  | '-' :: after =>
    let next := f.skip after
    match next with
    | [] => none
    | ']' :: _ | '-' :: _ => alone
    | _ =>
      let (last, rest) ← readMember f next
      match first, last with
      | .literal lo, .literal hi =>
        if lo ≤ hi && f.admitsLiteral lo && f.admitsLiteral hi then some rest else none
      | _, _ => none
  | _ => alone

/-- Where in a set a reader is: right after its opening, after hyphens there, or further on. -/
inductive SetPlace where
  | opening
  | afterHyphens
  | inside
deriving DecidableEq, Repr

/-- Reads the caret of a negated set. -/
def readNegation (f : Flags) (cs : List Char) : Bool × List Char :=
  match f.skip cs with
  | '^' :: rest => (true, rest)
  | rest => (false, rest)

/-- Reads the rest of a set that lies in `depth` others.  Each step takes at least one character, so
that `steps` need not exceed their number. -/
def readSet (f : Flags) : Nat → Nat → SetPlace → List Char → Option (List Char)
  | 0, _, _, _ => none
  | steps + 1, depth, place, cs =>
    match f.skip cs, place with
    | [], _ => none
    | '-' :: rest, .opening | '-' :: rest, .afterHyphens =>
      if f.admitsLiteral '-' then readSet f steps depth .afterHyphens rest else none
    | ']' :: rest, .opening =>
      if f.admitsLiteral ']' then readSet f steps depth .inside rest else none
    | ']' :: rest, _ => if depth = 0 then some rest else readSet f steps (depth - 1) .inside rest
    | '&' :: '&' :: rest, _ | '-' :: '-' :: rest, _ | '~' :: '~' :: rest, _ =>
      readSet f steps depth .inside rest
    | '[' :: rest, _ =>
      match readAsciiClass? rest with
      | some (isNegated, rest) =>
        if f.admitsSet isNegated then readSet f steps depth .inside rest else none
      | none =>
        let (isNegated, rest) := readNegation f rest
        if f.admitsSet isNegated then readSet f steps (depth + 1) .opening rest else none
    | cs, _ => do readSet f steps depth .inside (← readRange f cs)

/-! ## Groups -/

/-- What an opening parenthesis begins. -/
inductive GroupStart where
  /-- Flags for the rest of the group around it. -/
  | flags (flags : Flags)
  /-- A group with flags of its own, and perhaps a name. -/
  | group (flags : Flags) (name : Option String)
deriving DecidableEq, Repr

/-- Reads flags up to the character that ends them; the answer tells whether there are any.  Those
after a hyphen are cleared, and each may be named once. -/
def readFlags (f : Flags) (isCleared isOpen : Bool) (seen : List Char) :
    List Char → Option (Flags × Bool × Char × List Char)
  | [] => none
  | c :: rest =>
    if c == ':' || c == ')' then if isOpen then none else some (f, !seen.isEmpty, c, rest)
    else if seen.contains c then none
    else if c == '-' then readFlags f true true (c :: seen) rest
    else if "imsUuRx".toList.contains c then
      readFlags (f.set c !isCleared) isCleared false (c :: seen) rest
    else none

/-- The character may stand in the name of a group. -/
def isNameChar (isFirst : Bool) (c : Char) : Bool :=
  if isFirst then c == '_' || Text.isLetter c
  else c == '_' || c == '.' || c == '[' || c == ']' || Text.isLetterOrNumber c

/-- Reads the name of a group. -/
def readName (cs : List Char) : Option (String × List Char) :=
  match cs.takeWhile (· != '>'), cs.dropWhile (· != '>') with
  | first :: others, _ :: rest =>
    if isNameChar true first && others.all (isNameChar false) then
      some (String.ofList (first :: others), rest)
    else none
  | _, _ => none

/-- Reads what stands behind an opening parenthesis; there is no looking around. -/
def readGroupStart (f : Flags) (cs : List Char) : Option (GroupStart × List Char) :=
  let named (cs : List Char) := (readName cs).map fun (name, rest) =>
    (GroupStart.group f (some name), rest)
  match f.skip cs with
  | '?' :: '=' :: _ | '?' :: '!' :: _ | '?' :: '<' :: '=' :: _ | '?' :: '<' :: '!' :: _ => none
  | '?' :: 'P' :: '<' :: rest | '?' :: '<' :: rest => named rest
  | '?' :: rest => do
    let (flags, isSome, last, rest) ← readFlags f false false [] rest
    if last == ':' then some (.group flags none, rest)
    else if isSome then some (.flags flags, rest)
    else none
  | rest => some (.group f none, rest)

/-! ## Nesting -/

/-- What has been read of a sequence: the number of its items, the depth of the deepest one, and
that of the last one if it can be repeated. -/
structure Sequence where
  count : Nat
  deepest : Nat
  last : Option Nat
deriving DecidableEq, Repr

namespace Sequence

/-- Nothing yet. -/
def empty : Sequence := ⟨0, 0, none⟩

/-- One more item of a depth. -/
def push (s : Sequence) (depth : Nat) : Sequence := ⟨s.count + 1, max s.deepest depth, some depth⟩

/-- One more item that cannot be repeated. -/
def pushFlags (s : Sequence) : Sequence := ⟨s.count + 1, s.deepest, none⟩

/-- Repeats the last item. -/
def repeatLast? (s : Sequence) : Option Sequence :=
  s.last.map fun depth => ⟨s.count, max s.deepest (depth + 1), some (depth + 1)⟩

/-- The depth of the sequence, which counts only if it has more than one item. -/
def depth (s : Sequence) : Nat := if 1 < s.count then s.deepest + 1 else s.deepest

end Sequence

/-- What has been read of a group: its flags, the depth of its earlier branches, and the branch that
is being read. -/
structure Level where
  flags : Flags
  branches : Option Nat
  sequence : Sequence
deriving DecidableEq, Repr

namespace Level

/-- A group that has just been opened. -/
def opened (flags : Flags) : Level := ⟨flags, none, .empty⟩

/-- The depth of what stands in the group. -/
def depth (l : Level) : Nat :=
  match l.branches with
  | none => l.sequence.depth
  | some depth => max depth l.sequence.depth + 1

/-- Begins another branch. -/
def nextBranch (l : Level) : Level :=
  { l with branches := some (max (l.branches.getD 0) l.sequence.depth), sequence := .empty }

/-- Adds an item. -/
def push (l : Level) (depth : Nat) : Level := { l with sequence := l.sequence.push depth }

end Level

/-! ## Whole patterns -/

/-- Patterns may not be nested deeper than this. -/
def maxDepth : Nat := 250

/-- An escape may stand outside of sets. -/
def Flags.admits (f : Flags) : Escape → Bool
  | .literal c => f.admitsLiteral c
  | .shorthand isNegated => f.admitsShorthand isNegated
  | .wordEdge => !f.unicode
  | .textEdge => true

/-- Reads the rest of a pattern inside of a group, with the groups around it and the names of groups
that are taken.  Each step takes at least one character, so that one more step than there are
characters is enough. -/
def accepts : Nat → Level → List Level → List String → List Char → Bool
  | 0, _, _, _, _ => false
  | steps + 1, l, outer, names, cs =>
    let f := l.flags
    match f.skip cs with
    | [] => outer.isEmpty && l.depth ≤ maxDepth
    | '(' :: rest =>
      match readGroupStart f rest with
      | none => false
      | some (.flags flags, rest) =>
        accepts steps { l with flags, sequence := l.sequence.pushFlags } outer names rest
      | some (.group flags name, rest) =>
        !(name.any names.contains) &&
          accepts steps (.opened flags) (l :: outer) (name.toList ++ names) rest
    | ')' :: rest =>
      match outer with
      | [] => false
      | parent :: outer => accepts steps (parent.push (l.depth + 1)) outer names rest
    | '|' :: rest => accepts steps l.nextBranch outer names rest
    | '[' :: rest =>
      let (isNegated, rest) := readNegation f rest
      match if f.admitsSet isNegated then readSet f rest.length 0 .opening rest else none with
      | some rest => accepts steps (l.push 1) outer names rest
      | none => false
    | '\\' :: rest =>
      match readEscape f rest with
      | some (e, rest) => f.admits e && accepts steps (l.push 0) outer names rest
      | none => false
    | '{' :: _ => false
    | '^' :: rest | '$' :: rest => accepts steps (l.push 0) outer names rest
    | '.' :: rest => f.unicode && accepts steps (l.push 0) outer names rest
    | c :: rest =>
      if c == '?' || c == '*' || c == '+' then
        match l.sequence.repeatLast? with
        | some sequence =>
          let rest := match rest with
            | '?' :: rest => rest
            | rest => rest
          accepts steps { l with sequence } outer names rest
        | none => false
      else f.admitsLiteral c && accepts steps (l.push 0) outer names rest

/-- The text is a pattern.  Counts in braces are not among them: where a value is read, a closing
brace ends it. -/
def isPattern (cs : List Char) : Bool := accepts (cs.length + 1) (.opened .start) [] [] cs

end FlowWatch.Log.Pattern
