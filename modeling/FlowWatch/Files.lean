import FlowWatch.Text.Quoted

/-!
# Files

What stands at the paths of a file system, the text of paths, and the ways in which an operation on
files or on the terminal fails.
-/

namespace FlowWatch

/-- What stands at a path. -/
inductive FileState where
  | missing
  /-- A directory, and the length that the system tells of it: one block, unless it has many
  entries. -/
  | directory (length : Nat := 4096)
  | file (contents : ByteArray)

/-- The file with more bytes at its end; where there is no file, one is made. -/
def FileState.append (f : FileState) (more : ByteArray) : FileState :=
  match f with
  | file contents => file (contents ++ more)
  | _ => file more

/-- Why an operation on files or on the terminal failed. -/
inductive IoError where
  | notFound
  | isDirectory
  | notADirectory
  | alreadyExists
  | invalidUtf8
  /-- A failure that comes with its own text. -/
  | other (text : String)
deriving DecidableEq, Repr

namespace IoError

/-- The text of the failure, without its number. -/
def reason : IoError → String
  | notFound => "No such file or directory"
  | isDirectory => "Is a directory"
  | notADirectory => "Not a directory"
  | alreadyExists => "File exists"
  | invalidUtf8 => "stream did not contain valid UTF-8"
  | other text => text

/-- The number and the name of a failure that the system reports. -/
def code? : IoError → Option (Nat × String)
  | notFound => some (2, "NotFound")
  | isDirectory => some (21, "IsADirectory")
  | notADirectory => some (20, "NotADirectory")
  | alreadyExists => some (17, "AlreadyExists")
  | invalidUtf8 => none
  | other _ => none

/-- The text of the failure. -/
def message (e : IoError) : String :=
  match e.code? with
  | some (code, _) => s!"{e.reason} (os error {code})"
  | none => e.reason

/-- The failure with all that is known of it. -/
def detail (e : IoError) : String :=
  match e.code?, e with
  | some (code, name), _ =>
    s!"Os \x7b code: {code}, kind: {name}, message: {Text.quote e.reason} \x7d"
  | none, other text => s!"Custom \x7b kind: Other, error: {Text.quote text} \x7d"
  | none, _ => s!"Error \x7b kind: InvalidData, message: {Text.quote e.reason} \x7d"

end IoError

/-! ## The text of paths -/

namespace Path

/-- A path inside of a directory; a slash is put between them where there is none. -/
def join (base name : String) : String :=
  if base = "" || base.endsWith "/" then base ++ name else base ++ "/" ++ name

/-- The path starts at the root. -/
def isAbsolute (path : String) : Bool := path.startsWith "/"

/-- A reversed path without slashes and single points at its end; the root stays. -/
def trimTail : List Char → List Char
  | ['/'] => ['/']
  | '/' :: rest => trimTail rest
  | '.' :: '/' :: rest => trimTail ('/' :: rest)
  | cs => cs
termination_by cs => cs.length

/-- The last name of a path and what stands before it, if there is a name. -/
def split? (path : String) : Option (String × String) :=
  match trimTail path.toList.reverse with
  | [] => none
  | ['/'] => none
  | cs =>
    some (String.ofList (trimTail (cs.dropWhile (· ≠ '/'))).reverse,
      String.ofList (cs.takeWhile (· ≠ '/')).reverse)

/-- The directory of a path. -/
def parent? (path : String) : Option String := (split? path).map Prod.fst

/-- The file name at the end of a path. -/
def fileName? (path : String) : Option String :=
  match split? path with
  | some (_, name) => if name = "." || name = ".." then none else some name
  | none => none

end Path

/-! ## File systems -/

/-- A file system seen from a current directory.  Locations are the names on the way from the
root. -/
structure Files where
  current : List String
  entries : List (List String × FileState)

namespace Files

/-- No file anywhere. -/
def empty : Files := ⟨[], []⟩

/-- What stands at a location; directories are on the way to every entry. -/
def stateAt (fs : Files) (location : List String) : FileState :=
  match fs.entries.lookup location with
  | some state => state
  | none =>
    let onTheWay (other : List String) : Bool := location.isPrefixOf other
    if onTheWay fs.current || fs.entries.any (fun (other, _) => onTheWay other) then .directory
    else .missing

/-- The location that a name leads to from another one. -/
def child (location : List String) (name : String) : List String :=
  if name = "" || name = "." then location
  else if name = ".." then location.dropLast
  else location ++ [name]

/-- Follows names from a location.  Every name leads out of a directory, also the one that stays
and the one that goes back. -/
def walk (fs : Files) (location : List String) : List String → Except IoError (List String)
  | [] => .ok location
  | name :: names =>
    match fs.stateAt location with
    | .directory _ => fs.walk (child location name) names
    | .file _ => .error .notADirectory
    | .missing => .error .notFound

/-- A way can be followed in two parts. -/
theorem walk_append (fs : Files) (location first second : List String) :
    fs.walk location (first ++ second) =
      (fs.walk location first).bind fun there => fs.walk there second := by
  induction first generalizing location with
  | nil => rfl
  | cons name names ih =>
    simp only [List.cons_append, walk]
    cases fs.stateAt location with
    | directory length => exact ih _
    | file contents => rfl
    | missing => rfl

/-- The location where a path starts. -/
def origin (fs : Files) (path : String) : List String :=
  if Path.isAbsolute path then [] else fs.current

/-- The location that a path leads to. -/
def locate (fs : Files) (path : String) : Except IoError (List String) :=
  if path = "" then .error .notFound else fs.walk (fs.origin path) (path.splitOn "/")

/-- What stands at a path. -/
def get (fs : Files) (path : String) : FileState :=
  match fs.locate path with
  | .ok location => fs.stateAt location
  | .error _ => .missing

/-- Replaces what stands at a location. -/
def setAt (fs : Files) (location : List String) (state : FileState) : Files :=
  let others := fs.entries.filter fun (other, _) => other ≠ location
  match state with
  | .missing => { fs with entries := others }
  | _ => { fs with entries := (location, state) :: others }

/-- Replaces what stands at a path; directories that are missing on the way come with it. -/
def set (fs : Files) (path : String) (state : FileState) : Files :=
  fs.setAt ((path.splitOn "/").foldl child (fs.origin path)) state

/-- Makes a directory inside of the one that names lead to. -/
def makeDirectory (fs : Files) (start names : List String) (name : String) :
    Except IoError Files := do
  let location ← fs.walk start names
  match fs.stateAt location with
  | .missing => throw .notFound
  | .file _ => throw .notADirectory
  | .directory _ =>
    let made := child location name
    match fs.stateAt made with
    | .missing => return fs.setAt made .directory
    | _ => throw .alreadyExists

/-- A directory that is there already need not be made. -/
def acceptDirectory (fs : Files) (start names : List String) (made : Except IoError Files) :
    Except IoError Files :=
  match made, (fs.walk start names).map fs.stateAt with
  | .error .alreadyExists, .ok (.directory _) => .ok fs
  | _, _ => made

/-- Makes the directory at the end of a way given backwards, and those missing on it. -/
def makeWay (fs : Files) (start : List String) : List String → Except IoError Files
  | [] => .ok fs
  | name :: outer => do
    let names := outer.reverse
    let make (fs : Files) :=
      fs.acceptDirectory start (names ++ [name]) (fs.makeDirectory start names name)
    match make fs with
    | .error .notFound => make (← fs.makeWay start outer)
    | outcome => outcome

/-- Makes a directory and those on the way to it. -/
def makeDirectories (fs : Files) (path : String) : Except IoError Files :=
  let names := (path.splitOn "/").filter fun name => name ≠ "" && name ≠ "."
  fs.makeWay (fs.origin path) names.reverse

/-- Makes an empty file in a directory unless there is something; the answer tells where it is. -/
def openFile (fs : Files) (directory name : String) : Except IoError (Files × List String) := do
  let outer ← if directory = "" then .ok fs.current else fs.locate directory
  let location := child outer name
  match fs.stateAt location with
  | .missing => return (fs.setAt location (.file .empty), location)
  | .file _ => return (fs, location)
  | .directory _ => throw .isDirectory

/-- Adds to the file at a location, if there is one. -/
def appendAt (fs : Files) (location : List String) (more : ByteArray) : Files :=
  match fs.stateAt location with
  | .file contents => fs.setAt location (.file (contents ++ more))
  | _ => fs

end Files

/-! ## Environments -/

/-- The variables of the environment. -/
structure Environment where
  values : List (String × String)

/-- The value of a variable. -/
def Environment.get? (env : Environment) (name : String) : Option String :=
  env.values.lookup name

end FlowWatch
