import CallTrace.Server.Lines
import CallTrace.Server.Request
import CallTrace.Session.Request

/-!
# The tool server

A server of the Model Context Protocol that offers all methods as one tool. A message without an
identification is a notification and gets no answer. Every call of the tool may name a workspace and
a database of its own; a session is opened when a pair of them is named for the first time, and
kept.
-/

namespace CallTrace

open Json

/-- An error of the protocol. -/
structure ProtocolError where
  /-- Code of the error. -/
  code : Int
  /-- Wording of the error. -/
  message : String
deriving DecidableEq, Repr

namespace ProtocolError

/-- The message is not written as structured data. -/
def unreadable (misread : Misread) : ProtocolError :=
  ⟨-32700, "parse error: " ++ misread.message⟩

/-- The message names no method. -/
def invalidRequest : ProtocolError :=
  ⟨-32600, "invalid request"⟩

/-- There is no such method. -/
def unknownMethod (name : String) : ProtocolError :=
  ⟨-32601, "method not found: " ++ name⟩

/-- There is no such tool. -/
def unknownTool : ProtocolError :=
  ⟨-32601, "unknown tool"⟩

/-- A call has no parameters. -/
def missingParams : ProtocolError :=
  ⟨-32602, "missing params"⟩

/-- A call names no method of the tool. -/
def missingMethod : ProtocolError :=
  ⟨-32602, "missing method"⟩

end ProtocolError

/-- The answer to a message. -/
def envelope (id : Json) (outcome : Except ProtocolError Json) : Json :=
  let shown :=
    match outcome with
    | .ok result => ("result", result)
    | .error error =>
      ("error", ofFields [("code", integer error.code), ("message", .text error.message)])
  ofFields [("jsonrpc", .text "2.0"), ("id", id), shown]

/-- A session that has been opened for a workspace and a database. -/
structure OpenSession where
  /-- The workspace, as it was named. -/
  workspace : Path
  /-- The database, as it was named. -/
  database : Path
  /-- The session. -/
  session : Session
deriving DecidableEq, Repr

/-- The state of a tool server. -/
structure ToolServer where
  /-- The workspace of calls that name none. -/
  workspace : Path
  /-- The database of calls that name neither workspace nor database. -/
  database : Path
  /-- The sessions that have been opened. -/
  sessions : List OpenSession
  /-- The file system. -/
  system : FileSystem

namespace ToolServer

/-- Name of the tool. -/
def toolName : String := "reftrace_query"

/-- The version of the protocol that is offered unless a client asks for another. -/
def protocolVersion : String := "2024-11-05"

/-- The version of the program. -/
def programVersion : String := "0.1.0"

/-- Greatest number of bytes in the text of an answer. -/
def maxTextBytes : Nat := 512000

/-- What the tool is for. -/
def instructions : String :=
  "Use reftrace_query to look up references and call paths in an imported symbol index. " ++
    "Start with find_references to see every usage of a name, then trace_call_path with " ++
    "direction up (callers), down (callees) or both. Keep max_depth small (3-5) on large " ++
    "graphs; pass suppress_cycles for recursive code."

/-- A field of the protocol version inside the parameters of a message. -/
def requestedVersion (message : Json) : Json :=
  ((message.field? "params").bind fun params => params.field? "protocolVersion").getD
    (.text protocolVersion)

/-- The answer to a client that introduces itself. -/
def introduction (message : Json) : Json :=
  ofFields [
    ("protocolVersion", requestedVersion message),
    ("capabilities", ofFields [("tools", .object [])]),
    ("serverInfo",
      ofFields [("name", .text "reftrace"), ("version", .text programVersion)]),
    ("instructions", .text instructions)]

/-- The parameters of all methods, for the description of the tool. -/
def paramsDescription : String :=
  "stats \x7b\x7d; import \x7bpath, append\x7d; clear \x7b\x7d; list_workspaces \x7b\x7d; " ++
    "get_symbol \x7bid\x7d; find_references \x7bname, case_sensitive, resolved_only, limit\x7d; " ++
    "find_references_by_id \x7bid, resolved_only, limit\x7d; trace_call_path \x7bname, " ++
    "direction (up|down|both), max_depth, case_sensitive, suppress_cycles, " ++
    "format (json|tree)\x7d."

/-- A property of the tool's input. -/
def property (type : String) (more : List (String × Json)) : Json :=
  ofFields (("type", .text type) :: more)

/-- The description of the tool. -/
def toolDescription : Json :=
  ofFields [
    ("name", .text toolName),
    ("description",
      .text "Query the reftrace symbol index using a method + params payload."),
    ("inputSchema", property "object" [
      ("properties", ofFields [
        ("method", property "string" [("enum", Method.nameList)]),
        ("params", property "object" [("description", .text paramsDescription)]),
        ("workspace",
          property "string" [("description", .text "Workspace root for this call.")]),
        ("db", property "string" [("description", .text "Database path for this call.")]),
        ("compact",
          property "boolean" [("description", .text "Single-line JSON text output.")])]),
      ("required", .array [.text "method"])])]

/-- A text as the content of an answer. -/
def textContent (text : String) : Json :=
  .array [ofFields [("type", .text "text"), ("text", .text text)]]

/-- The text that stands for a result: a text that it holds goes out as it is. -/
def resultText (result : Json) (compact : Bool) : String :=
  match (result.field? "text").bind Json.text? with
  | some shown => shown
  | none => if compact then result.compact else result.pretty

/-- A text, or what stands in its place when it is too large. -/
def boundText (text : String) : String :=
  if maxTextBytes < text.utf8ByteSize then
    "Response too large (" ++ toString text.utf8ByteSize ++
      " bytes). Lower max_depth or limit, or use suppress_cycles."
  else
    text

/-- The answer to a call that succeeded. -/
def toolResult (result : Json) (compact : Bool) : Json :=
  ofFields [
    ("content", textContent (boundText (resultText result compact))),
    ("structuredContent", result),
    ("isError", .boolean false)]

/-- The answer to a call that failed. -/
def toolFailure (failure : Failure) : Json :=
  ofFields [
    ("content", textContent failure.message),
    ("isError", .boolean true)]

variable (server : ToolServer) (config : Config)

/-- The workspace and the database that a call is about. A workspace that it names brings its own
database with it. -/
def target (arguments : Json) : Path × Path :=
  let workspace := (arguments.field? "workspace").bind Json.text? |>.map Path.mk
  let database := (arguments.field? "db").bind Json.text? |>.map Path.mk
  match workspace, database with
  | some workspace, some database => (workspace, database)
  | some workspace, none => (workspace, workspace.defaultDatabase)
  | none, some database => (server.workspace, database)
  | none, none => (server.workspace, server.database)

/-- The session for a workspace and a database, which is opened if there is none. -/
def sessionFor (workspace database : Path) : Except Failure Session × ToolServer :=
  let known := server.sessions.find? fun entry =>
    entry.workspace.same workspace && entry.database.same database
  match known with
  | some entry => (.ok entry.session, server)
  | none =>
    match Session.start config server.system workspace database with
    | (.error failure, reached) => (.error failure, { server with system := reached })
    | (.ok session, reached) =>
      (.ok session,
        { server with
          sessions := ⟨workspace, database, session⟩ :: server.sessions
          system := reached })

/-- What a call of the tool asks for. -/
structure ToolCall where
  /-- Name of the method. -/
  method : String
  /-- All arguments. -/
  arguments : Json

/-- Parameters of the method that is asked for. -/
def ToolCall.params (call : ToolCall) : Json :=
  (call.arguments.field? "params").getD .null

/-- Whether the text of the answer is to be compact. -/
def ToolCall.compact (call : ToolCall) : Bool :=
  ((call.arguments.field? "compact").bind Json.boolean?).getD false

/-- Read what a call asks for. -/
def toolCall (params : Option Json) : Except ProtocolError ToolCall :=
  match params with
  | none => .error .missingParams
  | some params =>
    if (params.field? "name").bind Json.text? != some toolName then
      .error .unknownTool
    else
      let arguments := (params.field? "arguments").getD (.object [])
      match (arguments.field? "method").bind Json.text? with
      | none => .error .missingMethod
      | some method => .ok { method, arguments }

/-- Carry out a call. -/
def perform (call : ToolCall) : Except Failure Json × ToolServer :=
  let (workspace, database) := server.target call.arguments
  match server.sessionFor config workspace database with
  | (.error failure, reached) => (.error failure, reached)
  | (.ok session, reached) =>
    let (outcome, system) := session.request reached.system config call.method call.params
    (outcome, { reached with system })

/-- The answer to a call. After a fatal failure there is none. -/
def answerCall (call : ToolCall) : Except Failure Json × ToolServer :=
  match server.perform config call with
  | (.ok result, reached) => (.ok (toolResult result call.compact), reached)
  | (.error failure, reached) =>
    if failure.isFatal then
      (.error failure, reached)
    else
      (.ok (toolFailure failure), reached)

/-- The result of a message with an identification. -/
def result (message : Json) : Except Failure (Except ProtocolError Json) × ToolServer :=
  match (message.field? "method").bind Json.text? with
  | none => (.ok (.error .invalidRequest), server)
  | some "initialize" => (.ok (.ok (introduction message)), server)
  | some "ping" => (.ok (.ok (.object [])), server)
  | some "tools/list" => (.ok (.ok (ofFields [("tools", .array [toolDescription])])), server)
  | some "tools/call" =>
    match toolCall (message.field? "params") with
    | .error error => (.ok (.error error), server)
    | .ok call =>
      let (answer, reached) := server.answerCall config call
      (answer.map .ok, reached)
  | some name => (.ok (.error (.unknownMethod name)), server)

/-- The answer to a message, if it gets one. -/
def respond (message : Json) : Except Failure (Option Json) × ToolServer :=
  match message.field? "id" with
  | none => (.ok none, server)
  | some id =>
    let (outcome, reached) := server.result config message
    (outcome.map fun result => some (envelope id result), reached)

/-- The answer to a line, if it gets one. -/
def respondToLine (line : String) : Except Failure (Option Json) × ToolServer :=
  match Json.parse line with
  | .ok message => server.respond config message
  | .error misread => (.ok (some (envelope .null (.error (.unreadable misread)))), server)

/-- The answers to some lines, one after another, and the fatal failure that ended them, if any. -/
def respondToLines : ToolServer → List String → List Json × Option Failure × ToolServer
  | server, [] => ([], none, server)
  | server, line :: rest =>
    match server.respondToLine config line with
    | (.error failure, reached) => ([], some failure, reached)
    | (.ok answer, reached) =>
      let (answers, failure, final) := respondToLines reached rest
      (answer.toList ++ answers, failure, final)

/-- Serve some lines of input. -/
def serve (system : FileSystem) (workspace database : Path) (lines : List String) :
    List Json × Option Failure × ToolServer :=
  respondToLines config { workspace, database, sessions := [], system }
    (Server.requestLines lines)

end ToolServer

end CallTrace
