import CallTrace.FileSystem.Basic

/-!
# Making directories

A directory is made in a directory that exists. A directory with all that lead to it is made from
the top: a directory that exists is left as it is, and anything else in the way is a fault, after
which the directories that have been made stay.
-/

namespace CallTrace.FileSystem

/-- Make a directory in a directory that exists. -/
def makeDirectory (system : FileSystem) (path : Path) : Except FileFault FileSystem := do
  let location ← system.locate path
  match system.get? location with
  | some _ => .error .alreadyExists
  | none => .ok (system.put location .directory)

/-- Make a directory unless it exists. -/
def ensureDirectory (system : FileSystem) (path : Path) : Except FileFault FileSystem :=
  match system.makeDirectory path with
  | .ok made => .ok made
  | .error fault =>
    if fault = .alreadyExists && system.isDirectory path then .ok system else .error fault

/-- Make a directory and at most so many of those that lead to it. -/
def ensureAncestors (system : FileSystem) (path : Path) :
    Nat → Except FileFault Unit × FileSystem
  | 0 => (.ok (), system)
  | levels + 1 =>
    match path.parent? with
    | none => (.ok (), system)
    | some parent =>
      match system.ensureDirectory path with
      | .ok made => (.ok (), made)
      | .error .notFound =>
        match ensureAncestors system parent levels with
        | (.error fault, reached) => (.error fault, reached)
        | (.ok (), reached) =>
          match reached.ensureDirectory path with
          | .ok made => (.ok (), made)
          | .error fault => (.error fault, reached)
      | .error fault => (.error fault, system)

/-- Make a directory and all that lead to it. A path has more pieces than there are directories that
lead to it. -/
def ensureDirectories (system : FileSystem) (path : Path) : Except FileFault Unit × FileSystem :=
  system.ensureAncestors path (path.pieces.length + 1)

end CallTrace.FileSystem
