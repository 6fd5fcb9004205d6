import CallTrace.Method.Name
import CallTrace.Method.ReferencePage
import CallTrace.Method.TraceReport
import CallTrace.Reference.Search
import CallTrace.Session.Basic

/-!
# Answering requests

A request is a method with its parameters. Only an import and the removal of a workspace's content
change anything, and neither does when it fails.
-/

namespace CallTrace.Session

open Json

/-- Read parameters; absent ones are those without any field. -/
def params {δ α : Type} (record : Record δ α) (params : Json) : Except Failure α :=
  (record.reader.ofJson params).mapError .badParams

variable (session : Session) (system : FileSystem)

/-- The index document that a file holds. The path of the file is seen from the workspace. -/
def document (path : Path) : Except Failure IndexDocument := do
  let path := session.root.resolveFrom path
  let text ← (system.readText path).mapError (.unreadable path)
  (IndexDocument.reader.readText text).mapError (.badDocument path)

/-- Import an index document into the workspace, whose former content is replaced or kept. -/
def importDocument (document : IndexDocument) (replace : Bool) :
    Except Failure Json × FileSystem :=
  let database := (session.database? system).getD .fresh
  match database.importDocument session.workspace document replace with
  | .error symbol => (.error (.inverted symbol), system)
  | .ok written =>
    if session.isReadOnly && (replace || !document.isEmpty) then
      (.error (.store .readOnly), system)
    else
      (.ok document.summary.toJson, session.store system written)

/-- Import the index document that a file holds. -/
def importFile (given : Json) : Except Failure Json × FileSystem :=
  let incoming := do
    let request ← params ImportParams.record given
    let document ← session.document system ⟨request.path⟩
    return (document, !request.append.getD false)
  match incoming with
  | .error failure => (.error failure, system)
  | .ok (document, replace) => session.importDocument system document replace

/-- Remove what the workspace holds. -/
def clear : Except Failure Json × FileSystem :=
  let database := (session.database? system).getD .fresh
  if session.isReadOnly then
    (.error (.store .readOnly), system)
  else
    (.ok (ofFields [("cleared", .text session.workspace)]),
      session.store system (database.clear session.workspace))

/-- Count what the workspace holds. -/
def stats : Except Failure Json :=
  (session.read system "symbols" fun database =>
    (database.stats session.workspace).toJson).mapError .store

/-- List the workspaces of the database. -/
def listWorkspaces : Except Failure Json := do
  let workspaces ← (session.read system "identifiers" Database.workspaces).mapError .store
  return ofFields [
    ("db_path", .text session.databasePath.text),
    ("workspaces", ofList Json.text workspaces)]

/-- Get a symbol by its number. -/
def getSymbol (given : Json) : Except Failure Json := do
  let request ← params SymbolParams.record given
  let symbol ←
    (session.read system "symbols" fun database =>
      database.symbol? session.workspace request.id).mapError .store
  return ofOption Symbol.toJson symbol

/-- Find the references to a name. -/
def findReferences (given : Json) : Except Failure Json := do
  let request ← params ReferencesParams.record given
  let found ←
    session.inquire system (Reference.findNamed request.name (request.caseSensitive.getD false))
  return (ReferencePage.ofReferences (.text request.name) found request.page).toJson

/-- Find the references to the name of a symbol. -/
def findReferencesOf (given : Json) : Except Failure Json := do
  let request ← params ReferencesOfParams.record given
  let found ← session.inquire system (Reference.findOf request.id)
  return (ReferencePage.ofReferences (ofInt64 request.id) found request.page).toJson

/-- The direction that is asked for, both unless there is a word for it. -/
def direction : Option String → Except Failure TraceDirection
  | none => .ok .both
  | some word =>
    match TraceDirection.ofText? word with
    | some direction => .ok direction
    | none => .error (.invalidDirection word)

/-- The format that is asked for, structured data unless there is a word for it. -/
def format : Option String → Except Failure TraceFormat
  | none => .ok .data
  | some word =>
    match TraceFormat.ofText? word with
    | some format => .ok format
    | none => .error (.invalidFormat word)

/-- How far and by which rules a trace goes, before the settings limit it. -/
def requestedOptions (config : Config) (request : TraceParams) : TraceOptions where
  maxDepth := request.maxDepth.getD config.defaultMaxDepth
  caseSensitive := request.caseSensitive.getD false
  suppressCycles := request.suppressCycles.getD false

/-- Trace a name in a direction and report on it. -/
def report (config : Config) (request : TraceParams) (direction : TraceDirection) :
    Except Failure TraceReport := do
  let requested := requestedOptions config request
  let options := requested.clamp config
  let finding ←
    session.inquire system (TraceFinding.inquiry request.name options direction config)
  return {
    symbol := request.name, direction, maxDepth := options.maxDepth
    requestedDepth := requested.maxDepth, finding }

/-- Trace callers and callees. -/
def trace (config : Config) (given : Json) : Except Failure Json := do
  let request ← params TraceParams.record given
  let direction ← direction request.direction
  let format ← format request.format
  let report ← session.report system config request direction
  return report.toJson format

/-- Parameters that are absent count as those without any field. -/
def givenParams : Json → Json
  | .null => .object []
  | params => params

/-- Answer a request for a method. -/
def perform (config : Config) (method : Method) (given : Json) :
    Except Failure Json × FileSystem :=
  match method with
  | .help => (.ok Method.helpPage, system)
  | .listMethods => (.ok Method.listPage, system)
  | .stats => (session.stats system, system)
  | .importDocument => session.importFile system given
  | .clear => session.clear system
  | .listWorkspaces => (session.listWorkspaces system, system)
  | .getSymbol => (session.getSymbol system given, system)
  | .findReferences => (session.findReferences system given, system)
  | .findReferencesOf => (session.findReferencesOf system given, system)
  | .traceCallPath => (session.trace system config given, system)

/-- Answer a request for a method by its name. -/
def request (config : Config) (name : String) (given : Json) :
    Except Failure Json × FileSystem :=
  match Method.ofName? name with
  | none => (.error (.unknownMethod name), system)
  | some method => session.perform system config method (givenParams given)

end CallTrace.Session
