import FlowWatch.Json.Reader

/-!
# Settings documents

Reads the part of TOML that settings need: comments, and lines that give a key of the root table an
integer or a text.  Every other document is refused, be it broken TOML or a table, a list, a date, a
float or a boolean that no setting takes.
-/

namespace FlowWatch.Toml

/-- A value that a setting can have. -/
inductive Scalar where
  | integer (value : Int)
  | text (value : List Char)
deriving DecidableEq, Repr

/-- A key and its value. -/
structure Entry where
  key : List Char
  value : Scalar
deriving DecidableEq, Repr

/-! ## Lines -/

/-- A space within a line. -/
def isSpace (c : Char) : Bool := c == ' ' || c == '\t'

/-- The rest after spaces. -/
def skipSpace (cs : List Char) : List Char := cs.dropWhile isSpace

/-- A character that a line may hold: every one but the controls, the tab apart. -/
def isPlain (c : Char) : Bool := c == '\t' || (0x20 ≤ c.toNat && c.toNat != 0x7F)

/-- Reads the end of a line or of the document. -/
def readLineEnd : List Char → Option (List Char)
  | [] => some []
  | '\n' :: rest => some rest
  | '\r' :: '\n' :: rest => some rest
  | _ => none

/-- Reads what may follow a value: spaces and a comment up to the end of the line. -/
def readTrailing (cs : List Char) : Option (List Char) :=
  match skipSpace cs with
  | '#' :: rest => readLineEnd (rest.dropWhile isPlain)
  | rest => readLineEnd rest

/-! ## Texts -/

/-- The character of an escape with one letter. -/
def escape? : Char → Option Char
  | 'b' => some '\x08'
  | 'f' => some '\x0c'
  | 'n' => some '\n'
  | 'r' => some '\r'
  | 't' => some '\t'
  | '"' => some '"'
  | '\\' => some '\\'
  | _ => none

/-- The character with a number in hexadecimal digits. -/
def hexChar? (digits : List Char) : Option Char := do
  let values ← digits.mapM Json.hexValue?
  let code := values.foldl (fun n d => n * 16 + d) 0
  if code.isValidChar then some (Char.ofNat code) else none

/-- Where a text with escapes of several lines stands. -/
inductive LineBreak where
  /-- In the text. -/
  | none
  /-- After a backslash that takes the rest of the line away. -/
  | awaited
  /-- On the lines that it takes away. -/
  | skipping
deriving DecidableEq, Repr

/-- A character in front of what the rest reads. -/
def prepend (c : Char) (r : Option (List Char × List Char)) : Option (List Char × List Char) :=
  r.map fun (text, rest) => (c :: text, rest)

/-- Reads the rest of a text in double quotes. -/
def readBasic : List Char → Option (List Char × List Char)
  | [] => none
  | '"' :: rest => some ([], rest)
  | '\\' :: 'u' :: a :: b :: c :: d :: rest => do
    prepend (← hexChar? [a, b, c, d]) (readBasic rest)
  | '\\' :: 'U' :: a :: b :: c :: d :: e :: f :: g :: h :: rest => do
    prepend (← hexChar? [a, b, c, d, e, f, g, h]) (readBasic rest)
  | '\\' :: c :: rest => do prepend (← escape? c) (readBasic rest)
  | c :: rest => if isPlain c then prepend c (readBasic rest) else none

/-- Reads the rest of a text in single quotes. -/
def readLiteral : List Char → Option (List Char × List Char)
  | [] => none
  | '\'' :: rest => some ([], rest)
  | c :: rest => if isPlain c then prepend c (readLiteral rest) else none

/-- Reads the rest of a text between three double quotes; up to two more may end it. -/
def readLongBasic : LineBreak → List Char → Option (List Char × List Char)
  | _, [] => none
  | .awaited, '\n' :: rest => readLongBasic .skipping rest
  | .awaited, '\r' :: '\n' :: rest => readLongBasic .skipping rest
  | .awaited, c :: rest => if isSpace c then readLongBasic .awaited rest else none
  | .skipping, '\n' :: rest => readLongBasic .skipping rest
  | .skipping, '\r' :: '\n' :: rest => readLongBasic .skipping rest
  | .skipping, ' ' :: rest => readLongBasic .skipping rest
  | .skipping, '\t' :: rest => readLongBasic .skipping rest
  | _, '"' :: '"' :: '"' :: '"' :: '"' :: rest => some (['"', '"'], rest)
  | _, '"' :: '"' :: '"' :: '"' :: rest => some (['"'], rest)
  | _, '"' :: '"' :: '"' :: rest => some ([], rest)
  | _, '\\' :: 'u' :: a :: b :: c :: d :: rest => do
    prepend (← hexChar? [a, b, c, d]) (readLongBasic .none rest)
  | _, '\\' :: 'U' :: a :: b :: c :: d :: e :: f :: g :: h :: rest => do
    prepend (← hexChar? [a, b, c, d, e, f, g, h]) (readLongBasic .none rest)
  | _, '\\' :: '\n' :: rest => readLongBasic .skipping rest
  | _, '\\' :: '\r' :: '\n' :: rest => readLongBasic .skipping rest
  | _, '\\' :: c :: rest =>
    if isSpace c then readLongBasic .awaited rest
    else do prepend (← escape? c) (readLongBasic .none rest)
  | _, '\n' :: rest => prepend '\n' (readLongBasic .none rest)
  | _, '\r' :: '\n' :: rest => prepend '\n' (readLongBasic .none rest)
  | _, c :: rest => if isPlain c then prepend c (readLongBasic .none rest) else none

/-- Reads the rest of a text between three single quotes; up to two more may end it. -/
def readLongLiteral : List Char → Option (List Char × List Char)
  | [] => none
  | '\'' :: '\'' :: '\'' :: '\'' :: '\'' :: rest => some (['\'', '\''], rest)
  | '\'' :: '\'' :: '\'' :: '\'' :: rest => some (['\''], rest)
  | '\'' :: '\'' :: '\'' :: rest => some ([], rest)
  | '\n' :: rest => prepend '\n' (readLongLiteral rest)
  | '\r' :: '\n' :: rest => prepend '\n' (readLongLiteral rest)
  | c :: rest => if isPlain c then prepend c (readLongLiteral rest) else none

/-- The rest after a line break, if there is one. -/
def skipBreak : List Char → List Char
  | '\n' :: rest => rest
  | '\r' :: '\n' :: rest => rest
  | cs => cs

/-! ## Integers -/

/-- The value of a digit in a base. -/
def digit? (base : Nat) (c : Char) : Option Nat :=
  (Json.hexValue? c).filter (· < base)

/-- Reads more digits; an underscore may stand between two of them. -/
def readDigits (base value : Nat) : List Char → Option (Nat × List Char)
  | [] => some (value, [])
  | '_' :: c :: rest => do readDigits base (value * base + (← digit? base c)) rest
  | c :: rest =>
    match digit? base c with
    | some d => readDigits base (value * base + d) rest
    | none => if c = '_' then none else some (value, c :: rest)

/-- Reads a number with at least one digit. -/
def readNatural (base : Nat) : List Char → Option (Nat × List Char)
  | [] => none
  | c :: rest => do readDigits base (← digit? base c) rest

/-- Reads a decimal number, which starts with no zero unless it is zero. -/
def readDecimal : List Char → Option (Nat × List Char)
  | '0' :: rest => some (0, rest)
  | cs => readNatural 10 cs

/-- Reads an integer. -/
def readInteger : List Char → Option (Int × List Char)
  | '+' :: rest => (readDecimal rest).map fun (n, rest) => ((n : Int), rest)
  | '-' :: rest => (readDecimal rest).map fun (n, rest) => (-(n : Int), rest)
  | '0' :: 'x' :: rest => (readNatural 16 rest).map fun (n, rest) => ((n : Int), rest)
  | '0' :: 'o' :: rest => (readNatural 8 rest).map fun (n, rest) => ((n : Int), rest)
  | '0' :: 'b' :: rest => (readNatural 2 rest).map fun (n, rest) => ((n : Int), rest)
  | cs => (readDecimal cs).map fun (n, rest) => ((n : Int), rest)

/-- An integer of 64 bits. -/
def inRange (n : Int) : Bool := -9223372036854775808 ≤ n && n ≤ 9223372036854775807

/-! ## Documents -/

/-- Reads a text in any of the four ways of quoting. -/
def readText : List Char → Option (List Char × List Char)
  | '"' :: '"' :: '"' :: rest => readLongBasic .none (skipBreak rest)
  | '"' :: rest => readBasic rest
  | '\'' :: '\'' :: '\'' :: rest => readLongLiteral (skipBreak rest)
  | '\'' :: rest => readLiteral rest
  | _ => none

/-- Reads a value. -/
def readScalar (cs : List Char) : Option (Scalar × List Char) :=
  match cs with
  | '"' :: _ | '\'' :: _ => (readText cs).map fun (text, rest) => (.text text, rest)
  | _ => do
    let (n, rest) ← readInteger cs
    if inRange n then some (.integer n, rest) else none

/-- A character of a key without quotes. -/
def isKeyChar (c : Char) : Bool := c.isAlphanum || c == '-' || c == '_'

/-- Reads a key. -/
def readKey (cs : List Char) : Option (List Char × List Char) :=
  match cs with
  | '"' :: rest => readBasic rest
  | '\'' :: rest => readLiteral rest
  | _ =>
    let key := cs.takeWhile isKeyChar
    if key.isEmpty then none else some (key, cs.dropWhile isKeyChar)

/-- Reads a key, its value and the end of their line. -/
def readEntry (cs : List Char) : Option (Entry × List Char) := do
  let (key, rest) ← readKey cs
  match skipSpace rest with
  | '=' :: rest =>
    let (value, rest) ← readScalar (skipSpace rest)
    let rest ← readTrailing rest
    some (⟨key, value⟩, rest)
  | _ => none

/-- Reads lines up to the end; every line takes a character at least. -/
def readLines : Nat → List Char → Option (List Entry)
  | 0, cs => if (skipSpace cs).isEmpty then some [] else none
  | fuel + 1, cs =>
    match skipSpace cs with
    | [] => some []
    | '#' :: rest => do readLines fuel (← readLineEnd (rest.dropWhile isPlain))
    | '\n' :: rest => readLines fuel rest
    | '\r' :: '\n' :: rest => readLines fuel rest
    | cs => do
      let (entry, rest) ← readEntry cs
      let entries ← readLines fuel rest
      some (entry :: entries)

/-- The entries of a document, in order.  A mark of the byte order may stand at its start. -/
def read (cs : List Char) : Option (List Entry) :=
  match cs with
  | '\uFEFF' :: rest => readLines rest.length rest
  | _ => readLines cs.length cs

end FlowWatch.Toml
