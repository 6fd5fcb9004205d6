import CallTrace.Database.Basic
import CallTrace.FileSystem.Path

/-!
# File systems

A file system maps locations to directories, files and databases. A location is the list of names
that lead to it from the root, and a name may hold any characters but the slash. A path is walked
piece by piece through directories that exist, and a walk that ends does so at a location of names.
Beside its files a file system has databases that are kept in memory under a name.
-/

namespace CallTrace

/-- The names that lead from the root to a place. -/
abbrev Location := List String

/-- The location as an absolute path. -/
def Location.toText (location : Location) : String :=
  "/" ++ String.intercalate "/" location

/-- What lies at a location. -/
inductive Entry where
  /-- A directory. -/
  | directory
  /-- A file that is no database. -/
  | file (content : ByteArray)
  /-- A file that is a database. -/
  | database (content : Database)

/-- Why a file or directory could not be used. -/
inductive FileFault where
  /-- There is nothing there. -/
  | notFound
  /-- Something on the way is no directory. -/
  | notDirectory
  /-- A directory is no file. -/
  | isDirectory
  /-- There is something there already. -/
  | alreadyExists
  /-- A name holds the character with code zero. -/
  | invalidName
  /-- The content of a file is no text. -/
  | notText
  /-- A name or a path has too many bytes. -/
  | nameTooLong
deriving DecidableEq, Repr

/-- The wording of a fault. -/
def FileFault.message : FileFault → String
  | notFound => "No such file or directory (os error 2)"
  | notDirectory => "Not a directory (os error 20)"
  | isDirectory => "Is a directory (os error 21)"
  | alreadyExists => "File exists (os error 17)"
  | invalidName => "file name contained an unexpected NUL byte"
  | notText => "stream did not contain valid UTF-8"
  | nameTooLong => "File name too long (os error 36)"

/-- Greatest number of bytes in a name. -/
def maxNameBytes : Nat := 255

/-- Greatest number of bytes in a path. -/
def maxPathBytes : Nat := 4095

/-- Directories, files and databases, seen from a working directory. -/
structure FileSystem where
  /-- The working directory. -/
  working : Location
  /-- What lies at every location but the root. -/
  entries : Std.HashMap Location Entry
  /-- The databases that are kept in memory. -/
  memory : Std.HashMap String Database
  /-- The location of the working directory consists of names. -/
  isName_of_mem_working : ∀ piece ∈ working, Path.isName piece

namespace FileSystem

/-- The file system in which there is only the root, seen from a directory that need not exist. -/
def empty (directory : Path) : FileSystem where
  working := directory.names
  entries := ∅
  memory := ∅
  isName_of_mem_working := fun _ isPiece => (List.mem_filter.1 isPiece).2

variable (system : FileSystem)

/-- What lies at a location. The root is a directory. -/
def get? (location : Location) : Option Entry :=
  if location.isEmpty then some .directory else system.entries[location]?

/-- Put something at a location. -/
def put (location : Location) (entry : Entry) : FileSystem :=
  { system with entries := system.entries.insert location entry }

/-- What is put at a location other than the root lies there, and all else stays where it is. -/
theorem get?_put (location other : Location) (entry : Entry) (below : location ≠ []) :
    (system.put location entry).get? other =
      if other = location then some entry else system.get? other := by
  by_cases same : other = location
  · subst same
    simp [get?, put, below]
  · simp [get?, put, same, Std.HashMap.getElem?_insert, Ne.symm same]

/-- The database at a location. -/
def database? (location : Location) : Option Database :=
  match system.get? location with
  | some (.database content) => some content
  | _ => none

/-- The location that a piece of a path leads to from another one. -/
def step (location : Location) (piece : String) : Except FileFault Location :=
  match system.get? location with
  | none => .error .notFound
  | some .directory =>
    if Path.isIdle piece then
      .ok location
    else if piece = ".." then
      .ok location.dropLast
    else if maxNameBytes < piece.utf8ByteSize then
      .error .nameTooLong
    else
      .ok (location ++ [piece])
  | some _ => .error .notDirectory

theorem isName_of_mem_step {location reached : Location} {piece : String}
    (names : ∀ name ∈ location, Path.isName name) (noSlash : '/' ∉ piece.toList)
    (reaches : system.step location piece = .ok reached) :
    ∀ name ∈ reached, Path.isName name := by
  rw [step] at reaches
  split at reaches
  · cases reaches
  · split at reaches
    · cases reaches
      exact names
    · split at reaches
      · cases reaches
        exact fun name isName => names name (List.dropLast_subset location isName)
      · split at reaches
        · cases reaches
        · cases reaches
          intro name isName
          rcases List.mem_append.1 isName with old | new
          · exact names name old
          · rw [List.mem_singleton.1 new]
            simp_all [Path.isName]
  · cases reaches

/-- Where a path begins. -/
def origin (path : Path) : Location :=
  if path.isAbsolute then [] else system.working

/-- The location that a path leads to, at which nothing need lie, however long the path is. -/
def walk (path : Path) : Except FileFault Location :=
  if path.holdsZero then
    .error .invalidName
  else if path.text.isEmpty then
    .error .notFound
  else
    path.pieces.foldlM system.step (system.origin path)

theorem isName_of_mem_walk {path : Path} {reached : Location}
    (reaches : system.walk path = .ok reached) : ∀ name ∈ reached, Path.isName name := by
  have along : ∀ (pieces : List String) (location : Location),
      (∀ piece ∈ pieces, '/' ∉ piece.toList) → (∀ name ∈ location, Path.isName name) →
        pieces.foldlM system.step location = .ok reached →
          ∀ name ∈ reached, Path.isName name := by
    intro pieces
    induction pieces with
    | nil =>
      intro location _ names reaches
      cases reaches
      exact names
    | cons piece rest hypothesis =>
      intro location noSlash names reaches
      rw [List.foldlM_cons] at reaches
      cases next : system.step location piece with
      | error fault => rw [next] at reaches; cases reaches
      | ok between =>
        rw [next] at reaches
        exact hypothesis between (fun other isOther => noSlash other (.tail _ isOther))
          (system.isName_of_mem_step names (noSlash piece (.head _)) next) reaches
  rw [walk] at reaches
  split at reaches
  · cases reaches
  · split at reaches
    · cases reaches
    · refine along path.pieces (system.origin path)
        (fun _ isPiece => Path.slash_not_mem_of_mem_pieces isPiece) ?_ reaches
      rw [origin]
      split
      · simp
      · exact system.isName_of_mem_working

/-- The location that a path leads to, at which nothing need lie. -/
def locate (path : Path) : Except FileFault Location :=
  if !path.holdsZero && maxPathBytes < path.text.utf8ByteSize then
    .error .nameTooLong
  else
    system.walk path

/-- The location that a path leads to, and what lies there. -/
def find (path : Path) : Except FileFault (Location × Entry) := do
  let location ← system.locate path
  match system.get? location with
  | none => .error .notFound
  | some entry => .ok (location, entry)

/-- Whether a path leads to a directory. -/
def isDirectory (path : Path) : Bool :=
  match system.find path with
  | .ok (_, .directory) => true
  | _ => false

/-- The content of a text file. -/
def readText (path : Path) : Except FileFault String := do
  match ← system.find path with
  | (_, .directory) => .error .isDirectory
  | (_, .database _) => .error .notText
  | (_, .file content) =>
    match String.fromUTF8? content with
    | some text => .ok text
    | none => .error .notText

/-- The path as it is seen from the root, without regard to what exists. Two dots stay, and so do a
slash at the end and a double slash at the beginning. -/
def absolute (path : Path) : Path :=
  let names := path.pieces.filter fun piece => !Path.isIdle piece
  let base :=
    if !path.isAbsolute then
      Location.toText (system.working ++ names)
    else if path.text.startsWith "//" && !path.text.startsWith "///" then
      "/" ++ Location.toText names
    else
      Location.toText names
  if path.endsWithSlash && !(Path.mk base).endsWithSlash then ⟨base ++ "/"⟩ else ⟨base⟩

/-- The place that stands for a workspace: its location if it exists, and otherwise its path as it is
seen from the root. -/
def workspacePlace (workspace : Path) : String :=
  match system.walk workspace with
  | .ok location =>
    if (system.get? location).isSome then location.toText else (system.absolute workspace).text
  | .error _ => if workspace.text.isEmpty then "" else (system.absolute workspace).text

/-- The text that stands for a place: backslashes count as slashes, and two slashes, a question mark
and a slash do not count where they stand first. -/
def keyText (place : String) : String :=
  let slashed := String.ofList (place.toList.map fun c => if c = '\\' then '/' else c)
  match slashed.toList with
  | '/' :: '/' :: '?' :: '/' :: rest => String.ofList rest
  | _ => slashed

/-- The text by which a workspace is known in a database. -/
def workspaceKey (workspace : Path) : String :=
  keyText (system.workspacePlace workspace)

end FileSystem

end CallTrace
