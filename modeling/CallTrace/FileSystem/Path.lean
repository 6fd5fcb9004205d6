import CallTrace.Text.Split

/-!
# Paths

A path is a text whose pieces are separated by slashes. Empty pieces and single dots do not count,
except that a path may begin with a slash, which makes it absolute, or with a dot. Two paths are the
same when they have the same components.
-/

namespace CallTrace

/-- A path as it is written. -/
structure Path where
  /-- The written path. -/
  text : String
deriving DecidableEq, Repr, Inhabited

namespace Path

/-- A piece of a path that counts. -/
inductive Component where
  /-- The slash at the beginning. -/
  | root
  /-- A dot at the beginning. -/
  | here
  /-- Two dots. -/
  | up
  /-- Any other piece. -/
  | name (text : String)
deriving DecidableEq, Repr

/-- Whether the path holds the character with code zero, which no file's name may hold. -/
def holdsZero (path : Path) : Bool :=
  path.text.toList.contains '\x00'

/-- The pieces between the slashes. -/
def pieces (path : Path) : List String :=
  (Text.split '/' path.text.toList).map String.ofList

/-- Whether the path begins with a slash. -/
def isAbsolute (path : Path) : Bool :=
  path.text.toList.head? == some '/'

/-- Whether the path ends with a slash. -/
def endsWithSlash (path : Path) : Bool :=
  path.text.toList.getLast? == some '/'

/-- Whether a piece does not count: nothing or a dot. -/
def isIdle (piece : String) : Bool :=
  piece == "" || piece == "."

/-- Whether a piece names a directory or file in another directory. -/
def isName (piece : String) : Bool :=
  !isIdle piece && piece != ".." && !piece.toList.contains '/'

/-- The names among the pieces. -/
def names (path : Path) : List String :=
  path.pieces.filter isName

theorem slash_not_mem_of_mem_pieces {path : Path} {piece : String}
    (isPiece : piece ∈ path.pieces) : '/' ∉ piece.toList := by
  obtain ⟨part, isPart, rfl⟩ := List.mem_map.1 isPiece
  simpa using Text.not_mem_of_mem_split isPart

/-- The component of a piece that is not the first. -/
def innerComponent? (piece : String) : Option Component :=
  if isIdle piece then none else if piece = ".." then some .up else some (.name piece)

/-- The pieces that count. -/
def components (path : Path) : List Component :=
  match path.pieces with
  | [] => []
  | first :: rest =>
    if path.isAbsolute then
      .root :: rest.filterMap innerComponent?
    else if first = "." then
      .here :: rest.filterMap innerComponent?
    else
      (first :: rest).filterMap innerComponent?

/-- Whether two paths have the same components. -/
def same (left right : Path) : Bool :=
  left.components == right.components

/-- A path seen from another one, which an absolute path replaces. -/
def join (base path : Path) : Path :=
  if path.isAbsolute then
    path
  else if base.text.isEmpty || base.endsWithSlash then
    ⟨base.text ++ path.text⟩
  else
    ⟨base.text ++ "/" ++ path.text⟩

/-- Pieces without those at the end that do not count. -/
def dropIdleEnd (pieces : List String) : List String :=
  (pieces.reverse.dropWhile isIdle).reverse

/-- The path without its last component, if that is not the root. -/
def parent? (path : Path) : Option Path :=
  match path.pieces with
  | [] => none
  | first :: rest =>
    match dropIdleEnd rest with
    | [] => if first = "" then none else some ⟨""⟩
    | kept =>
      let above := dropIdleEnd kept.dropLast
      if first = "" && above.isEmpty then
        some ⟨"/"⟩
      else
        some ⟨String.intercalate "/" (first :: above)⟩

/-- The path seen from a base directory; an absolute path stays as it is. -/
def resolveFrom (base path : Path) : Path :=
  if path.isAbsolute then path else base.join path

/-- Where the database of a workspace lies unless another place is given. -/
def defaultDatabase (workspace : Path) : Path :=
  (workspace.join ⟨".reftrace"⟩).join ⟨"reftrace.sqlite"⟩

end Path

end CallTrace
