import FlowWatch.Flow.Basic
import FlowWatch.Screen.Palette
import FlowWatch.Screen.StyledLine
import FlowWatch.Time.Printer

/-!
# Table columns

How the width of the table is shared among its columns, and how texts are made to fill a column
exactly.  The request column takes what the others leave; when that is too little, the server, the
time and the index are given up in this order.
-/

namespace FlowWatch.Screen

/-- The columns that a character takes in a cut text; a control takes none. -/
def charCells (c : Char) : Nat := (Text.charWidth? c).getD 0

/-- The longest start of a text that fits, and the columns that it takes. -/
def takeCells (room : Nat) : List Char → List Char × Nat
  | [] => ([], 0)
  | c :: cs =>
    let w := charCells c
    if w ≤ room then
      let (taken, used) := takeCells (room - w) cs
      (c :: taken, w + used)
    else ([], 0)

/-- A text that fits stays as it is; any other is cut and ends in an ellipsis.  The answer tells the
columns that are taken. -/
def truncate (text : List Char) (width : Nat) : List Char × Nat :=
  if Text.width text ≤ width then (text, Text.width text)
  else if width = 0 then ([], 0)
  else
    let (taken, used) := takeCells (width - 1) text
    (taken ++ ['…'], used + 1)

/-- A text cut or padded at its end to fill a column. -/
def fitLeft (text : String) (width : Nat) : String :=
  let (out, used) := truncate text.toList width
  String.ofList (out ++ List.replicate (width - used) ' ')

/-- A text cut or padded at its start to fill a column. -/
def fitRight (text : String) (width : Nat) : String :=
  let (out, used) := truncate text.toList width
  String.ofList (List.replicate (width - used) ' ' ++ out)

theorem takeCells_le (room : Nat) (cs : List Char) : (takeCells room cs).2 ≤ room := by
  induction cs generalizing room with
  | nil => exact Nat.zero_le _
  | cons c cs ih =>
    unfold takeCells
    simp only
    split
    · have := ih (room - charCells c)
      simp only
      omega
    · exact Nat.zero_le _

theorem truncate_le (text : List Char) (width : Nat) : (truncate text width).2 ≤ width := by
  unfold truncate
  split
  · assumption
  · split
    · exact Nat.zero_le _
    · have := takeCells_le (width - 1) text
      simp only
      omega

/-- The widths of the columns; a column of width zero is not shown. -/
structure Columns where
  index : Nat
  time : Nat
  kind : Nat
  server : Nat
  request : Nat
  status : Nat
deriving DecidableEq, Repr

namespace Columns

/-- The widths before any column is given up. -/
def full : Columns := ⟨6, 12, 5, 22, 0, 6⟩

/-- The least width that is kept for requests while a column can be given up. -/
def leastRequest : Nat := 8

/-- The width of all columns but the request column, each with a space after it. -/
def fixed (c : Columns) : Nat :=
  ([c.index, c.time, c.kind, c.server, c.status].filter (0 < ·)).foldr (fun w n => w + 1 + n) 0

/-- Gives up columns in order until a request fits. -/
def giveUp (width : Nat) : List (Columns → Columns) → Columns → Columns
  | [], c => c
  | drop :: rest, c =>
    if c.fixed + leastRequest ≤ width then c else giveUp width rest (drop c)

/-- The columns of a table of a width. -/
def ofWidth (width : Nat) : Columns :=
  let c := giveUp width
    [fun c => { c with server := 0 }, fun c => { c with time := 0 }, fun c => { c with index := 0 }]
    full
  { c with request := width - c.fixed }

/-- The widths from left to right. -/
def widths (c : Columns) : List Nat := [c.index, c.time, c.kind, c.server, c.request, c.status]

/-- The cells of the columns that are shown, with a space between two of them. -/
def line (c : Columns) (cells : List Span) : List Span :=
  (((cells.zip c.widths).filter fun (_, width) => width ≠ 0).map Prod.fst).intersperse (.bare " ")

/-- The header. -/
def header (c : Columns) (palette : Palette) : List Span :=
  c.line <| List.map (fun text => ⟨text, palette.header⟩)
    [fitRight "#" c.index, fitLeft "Time" c.time, fitLeft "Kind" c.kind, fitLeft "Server" c.server,
      fitLeft "Request" c.request, fitRight "Status" c.status]

/-- The server of a flow: the host of its request, or its address. -/
def serverText (f : Flow) : String :=
  match f.request, f.server with
  | some request, _ => request.host
  | none, some server => server
  | none, none => ""

/-- The request of a flow. -/
def requestText (f : Flow) : String :=
  match f.request with
  | some request => request.method ++ " " ++ request.path
  | none => ""

/-- The status of a flow, or an ellipsis while a response is awaited. -/
def statusSpan (f : Flow) (palette : Palette) (width : Nat) : Span :=
  match f.response with
  | some response =>
    ⟨fitRight (toString response.statusCode) width, palette.statusCode response.statusCode⟩
  | none => .bare (fitRight (if f.kind.isDirectional then "…" else "") width)

/-- The row of a flow at a view index. -/
def row (c : Columns) (index : Nat) (f : Flow) (palette : Palette) : List Span :=
  c.line
    [.bare (fitRight (toString (index + 1)) c.index), .bare (fitLeft f.timestamp.clockText c.time),
      ⟨fitLeft f.kind.label c.kind, palette.kind f.kind⟩, .bare (fitLeft (serverText f) c.server),
      .bare (fitLeft (requestText f) c.request), statusSpan f palette c.status]

end Columns

end FlowWatch.Screen
