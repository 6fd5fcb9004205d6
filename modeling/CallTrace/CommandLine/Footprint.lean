import CallTrace.CommandLine.Run
import CallTrace.Database.Storage

/-!
# What a command needs of the file system

The locations that must be looked at before a command or a line of input is carried out, and the
changes that must be made afterwards.
-/

namespace CallTrace

/-- What the bytes of a file are: a database or any other file. -/
def Entry.ofBytes (content : ByteArray) : Entry :=
  match Database.ofFile? content with
  | some stored => .database stored
  | none => .file content

namespace FileSystem

/-- The locations that a walk along a path comes by. -/
def trail (system : FileSystem) (path : Path) : List Location :=
  let origin := system.origin path
  let above := (List.range origin.length).map fun length => origin.take (length + 1)
  (above ++ system.textualTrail path).filter fun location => !location.isEmpty

/-- Whether an entry is what lies at a location already. -/
def holds (system : FileSystem) (location : Location) (entry : Entry) : Bool :=
  match system.get? location, entry with
  | some .directory, .directory => true
  | some (.file old), .file new => old == new
  | some (.database old), .database new => old == new
  | _, _ => false

/-- The entries that are not what another file system has, those of shorter locations first. -/
def changesFrom (system before : FileSystem) : List (Location × Entry) :=
  (system.entries.toList.filter fun entry => !before.holds entry.1 entry.2).mergeSort
    fun left right => left.1.length ≤ right.1.length

end FileSystem

/-- The paths that matter when a database is opened: its own, and that of the file that it leads to
as an address. -/
def Path.databasePaths (path : Path) : List Path :=
  match (Address.ofPath path).map Address.keeping with
  | .ok (.file file) => [path, file]
  | _ => [path]

namespace Session

/-- The files that a request for a method reads. -/
def filesOf (root : Path) (method : String) (params : Json) : List Path :=
  match Method.ofName? method, Session.params ImportParams.record (givenParams params) with
  | some .importDocument, .ok request => [root.resolveFrom ⟨request.path⟩]
  | _, _ => []

/-- The files that a line of requests reads. -/
def filesOfLine (root : Path) (line : String) : List Path :=
  match Request.ofLine line with
  | .ok request => filesOf root request.method request.params
  | .error _ => []

end Session

namespace ToolServer

/-- The paths that a message is about. -/
def pathsOfLine (server : ToolServer) (line : String) : List Path :=
  match Json.parse line with
  | .error _ => []
  | .ok message =>
    match toolCall (message.field? "params") with
    | .error _ => []
    | .ok call =>
      let (workspace, database) := server.target call.arguments
      workspace :: database.databasePaths ++ Session.filesOf workspace call.method call.params

end ToolServer

namespace CommandLine

/-- The paths that a command is about, as far as the file system that is known tells. -/
def Command.paths (command : Command) (system : FileSystem) : List Path :=
  command.workspace :: command.database.databasePaths ++
    match command.action with
    | .importFile path _ => [path]
    | .request method params paramsFile _ =>
      let asked :=
        match (requestParams system params paramsFile).toOption.map Json.parse with
        | some (.ok value) => Session.filesOf command.workspace method value
        | _ => []
      paramsFile.toList ++ asked
    | _ => []

end CommandLine

end CallTrace
