import CallTrace.Config
import CallTrace.Method.Failure

/-!
# Sessions

A session is an open database together with the workspace that requests are about. The database
itself belongs to the file system, so all sessions on one database see the same content.
-/

namespace CallTrace

/-- An open database and a workspace. -/
structure Session where
  /-- The text by which the workspace is known in the database. -/
  workspace : String
  /-- The directory of the workspace. -/
  root : Path
  /-- The path of the database. -/
  databasePath : Path
  /-- Where the content of the database is found. -/
  seat : Seat
  /-- Whether the database may only be read. -/
  isReadOnly : Bool
deriving DecidableEq, Repr

/-- The table that is read to answer a query. -/
def Query.table : Query → String
  | .allSymbols => "symbols"
  | .identifiersNamed _ _ => "identifiers"
  | .identifiersWithin _ => "identifiers"

namespace Session

/-- Open a session. -/
def start (config : Config) (system : FileSystem) (root databasePath : Path) :
    Except Failure Session × FileSystem :=
  match system.openDatabase databasePath with
  | (.error fault, reached) => (.error (.opening fault), reached)
  | (.ok opened, reached) =>
    if config.poolIsSound then
      let workspace := reached.workspaceKey root
      (.ok
        { workspace, root, databasePath, seat := opened.seat, isReadOnly := opened.isReadOnly },
        reached)
    else
      (.error .unsoundPool, reached)

variable (session : Session) (system : FileSystem)

/-- The content of the database, if it is found anywhere. -/
def database? : Option Database :=
  system.content? session.seat

/-- Read from the database; without one, the table that would be read first is missing. -/
def read {α : Type} (table : String) (view : Database → α) : Except StoreFault α :=
  match session.database? system with
  | some database => .ok (view database)
  | none => .error (.missingTable table)

/-- What the database answers to a query about the workspace. -/
def answer (query : Query) : Except StoreFault query.Answer :=
  session.read system query.table fun database => database.answer session.workspace query

/-- Carry out an inquiry about the workspace. -/
def inquire {α : Type} (inquiry : Inquiry α) : Except Failure α :=
  (inquiry.outcome (session.answer system)).mapError .inquiry

/-- Replace the content of the database. What nobody sees is lost. -/
def store (database : Database) : FileSystem :=
  system.store database session.seat

end Session

end CallTrace
