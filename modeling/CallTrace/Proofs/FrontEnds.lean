import CallTrace.Proofs.Comparison
import CallTrace.Proofs.Exchanges
import CallTrace.Proofs.Restart
import CallTrace.Server.ToolServer

/-!
# Three ways to ask

A request can be made on a line of the line server, as a single call, and as a call of the tool. The
line server and the tool server keep their session, and every single call has one of its own. Since
nothing is kept in a session, all three give the same answers, request by request. The one thing that
a session does keep is a database in memory that nobody else has open: it goes with the session.
-/

namespace CallTrace

/-! ## Requests in all their forms -/

/-- Parameters that no method can tell apart: absent ones count as those without any field. -/
def SameParams (left right : Json) : Prop :=
  Session.givenParams left = Session.givenParams right

/-- The message calls the tool for a method, in the workspace and on the database that calls are
about which name none. -/
structure ToolServer.IsCallFor (message : Json) (method : String) (params : Json) : Prop where
  /-- It is no notification. -/
  identified : ∃ id, message.field? "id" = some id
  /-- It is a call of a tool. -/
  isCall : (message.field? "method").bind Json.text? = some "tools/call"
  /-- It calls this tool, and its arguments name the method and its parameters only. -/
  arguments : ∃ outer arguments, message.field? "params" = some outer ∧
    (outer.field? "name").bind Json.text? = some toolName ∧
    outer.field? "arguments" = some arguments ∧
    (arguments.field? "method").bind Json.text? = some method ∧
    SameParams ((arguments.field? "params").getD .null) params ∧
    (arguments.field? "workspace").bind Json.text? = none ∧
    (arguments.field? "db").bind Json.text? = none

/-- A request for a method in all the forms in which it can be made. -/
structure SharedRequest where
  /-- Name of the method. -/
  method : String
  /-- Parameters of the method. -/
  params : Json
  /-- The request as a line for the line server. -/
  line : String
  /-- The parameters as a text for a single call. -/
  paramsText : String
  /-- The identification as a text for a single call. -/
  idText : String
  /-- The request as a message for the tool server. -/
  message : String
  /-- The line asks for the method. -/
  isLine : ∃ request, Request.ofLine line = .ok request ∧ request.method = method ∧
    SameParams request.params params
  /-- The text gives the parameters. -/
  isCall : ∃ given, Json.parse paramsText = .ok given ∧ SameParams given params
  /-- The message asks for the method. -/
  isMessage : ∃ value, Json.parse message = .ok value ∧
    ToolServer.IsCallFor value method params

/-- Single calls one after another, each in a session of its own. -/
def LineServer.callAll (config : Config) (workspace database : Path) :
    FileSystem → List SharedRequest → List (Except Failure Response) × FileSystem
  | system, [] => ([], system)
  | system, request :: rest =>
    let (outcome, reached) :=
      call config system workspace database request.method request.paramsText request.idText
    let (outcomes, final) := callAll config workspace database reached rest
    (outcome :: outcomes, final)

/-- The answer of the tool server tells the outcome of a request. -/
def ToolServer.Tells (answer : Json) (outcome : Except String Json) : Prop :=
  ∃ shown, answer.field? "result" = some shown ∧
    match outcome with
    | .ok result =>
        shown.field? "structuredContent" = some result ∧
          shown.field? "isError" = some (.boolean false)
    | .error message =>
        shown.field? "content" = some (textContent message) ∧
          shown.field? "isError" = some (.boolean true)

/-- All three front ends give the same outcomes to the same requests. -/
def FrontEndsAgree (config : Config) (system : FileSystem) (workspace database : Path)
    (requests : List SharedRequest) : Prop :=
  ∃ outcomes : List (Except String Json), outcomes.length = requests.length ∧
    (∃ responses final,
      LineServer.serve config system workspace database (requests.map SharedRequest.line) =
        (.ok responses, final) ∧ responses.map Response.outcome = outcomes) ∧
    (∃ (responses : List Response) (final : FileSystem),
      LineServer.callAll config workspace database system requests =
        (responses.map .ok, final) ∧ responses.map Response.outcome = outcomes) ∧
    ∃ answers server,
      ToolServer.serve config system workspace database (requests.map SharedRequest.message) =
        (answers, none, server) ∧ List.Forall₂ ToolServer.Tells answers outcomes

namespace Session

variable {config : Config} {session : Session} {system : FileSystem}

theorem request_congr (config : Config) (session : Session) (system : FileSystem) (name : String)
    {left right : Json} (same : SameParams left right) :
    session.request system config name left = session.request system config name right := by
  rw [request, request, same]

/-- The outcomes of some requests in one session. -/
def outcomes (config : Config) (session : Session) :
    FileSystem → List SharedRequest → List (Except String Json)
  | _, [] => []
  | system, request :: rest =>
    let answer := session.request system config request.method request.params
    answer.1.mapError Failure.message :: outcomes config session answer.2 rest

theorem length_outcomes (config : Config) (session : Session) (system : FileSystem)
    (requests : List SharedRequest) :
    (session.outcomes config system requests).length = requests.length := by
  induction requests generalizing system with
  | nil => rfl
  | cons request rest ih => exact congrArg (· + 1) (ih _)

/-! ## The line server -/

theorem respondToLine_shared (config : Config) (session : Session) (system : FileSystem)
    (request : SharedRequest) :
    let answer := session.request system config request.method request.params
    ∃ response, session.respondToLine system config request.line = (response, answer.2) ∧
      response.outcome = answer.1.mapError Failure.message := by
  obtain ⟨read, reads, isMethod, same⟩ := request.isLine
  rw [respondToLine, reads]
  simp only [respond_eq, isMethod, session.request_congr config system request.method same]
  exact ⟨_, rfl, rfl⟩

theorem respondToLines_shared (config : Config) (session : Session) (system : FileSystem)
    (requests : List SharedRequest) :
    ∃ responses final,
      session.respondToLines config system
          (Server.requestLines (requests.map SharedRequest.line)) = (responses, final) ∧
        responses.map Response.outcome = session.outcomes config system requests := by
  induction requests generalizing system with
  | nil => exact ⟨[], system, rfl, rfl⟩
  | cons request rest ih =>
      obtain ⟨read, reads, -⟩ := request.isLine
      have asks : Text.allBlank request.line = false := Json.Record.allBlank_of_readText reads
      obtain ⟨response, responds, outcome⟩ := respondToLine_shared config session system request
      obtain ⟨responses, final, others, outcomes⟩ :=
        ih (session.request system config request.method request.params).2
      refine ⟨response :: responses, final, ?_, ?_⟩
      · simp only [Server.requestLines] at others
        simp [Server.requestLines, asks, respondToLines, responds, others]
      · rw [List.map_cons, outcome, outcomes, Session.outcomes]

/-! ## Single calls -/

/-- Started where a closed session left off, the session comes back and finds what looks like the
given file system. -/
structure Resumes (config : Config) (session : Session) (closed system : FileSystem) : Prop where
  /-- The session comes back. -/
  starts : ∃ reached, start config closed session.root session.databasePath =
    (.ok session, reached) ∧ reached.Alike system
  /-- A database in memory is not lost when the session is closed. -/
  keeps : ∀ name, session.seat = .memory name → closed.memory.contains name = true

theorem close_eq {before : FileSystem} (system : FileSystem)
    (keeps : ∀ name, session.seat = .memory name → before.memory.contains name = true) :
    system.close before session.seat = system := by
  cases isSeat : session.seat with
  | memory name => rw [FileSystem.close, if_pos (keeps name isSeat)]
  | file location => rfl
  | nowhere => rfl

/-- The step: a call is answered like a request in a session that is kept, and the session can be
resumed afterwards. -/
theorem Resumes.call {closed : FileSystem} (resumes : session.Resumes config closed system)
    (request : SharedRequest) :
    let answer := session.request system config request.method request.params
    ∃ response final,
      LineServer.call config closed session.root session.databasePath request.method
          request.paramsText request.idText = (.ok response, final) ∧
        response.outcome = answer.1.mapError Failure.message ∧
        session.Resumes config final answer.2 := by
  intro answer
  obtain ⟨given, parses, same⟩ := request.isCall
  obtain ⟨reached, starts, alike⟩ := resumes.starts
  let own := session.request reached config request.method request.params
  have likewise : AnswersAlike own answer := request_alike config session alike _ _
  have steady : session.IsSteady config own.2 :=
    (isSteady_of_start starts).answered (answered_request config session reached _ _)
  let response : Response :=
    { id := LineServer.identification request.idText
      outcome := own.1.mapError Failure.message }
  have calls : LineServer.call config closed session.root session.databasePath request.method
      request.paramsText request.idText = (.ok response, own.2) := by
    simp only [LineServer.call, parses, starts, respond_eq,
      session.request_congr config reached request.method same]
    rw [close_eq _ resumes.keeps]
  refine ⟨response, own.2, calls, congrArg (Except.mapError Failure.message) likewise.1, ?_,
    fun name isMemory => steady.contains_memory isMemory⟩
  obtain ⟨again, startsAgain, alikeAgain⟩ := steady.start
  exact ⟨again, startsAgain, alikeAgain.trans likewise.2⟩

theorem Resumes.callAll {closed : FileSystem} (resumes : session.Resumes config closed system)
    (requests : List SharedRequest) :
    ∃ (responses : List Response) (final : FileSystem),
      LineServer.callAll config session.root session.databasePath closed requests =
        (responses.map .ok, final) ∧
      responses.map Response.outcome = session.outcomes config system requests := by
  induction requests generalizing closed system with
  | nil => exact ⟨[], closed, rfl, rfl⟩
  | cons request rest ih =>
      obtain ⟨response, between, calls, outcome, resumesAgain⟩ := resumes.call request
      obtain ⟨responses, final, others, outcomes⟩ := ih resumesAgain
      refine ⟨response :: responses, final, ?_, ?_⟩
      · simp only [LineServer.callAll, calls, others, List.map_cons]
      · rw [List.map_cons, outcome, outcomes, Session.outcomes]

end Session

/-! ## The tool server -/

namespace ToolServer

variable {config : Config} {session : Session} {system : FileSystem} {server : ToolServer}

/-- A call that names neither a workspace nor a database is carried out in a session, which is there
or is started, and finds a file system. -/
def Offers (config : Config) (server : ToolServer) (session : Session) (system : FileSystem) :
    Prop :=
  ∃ opened, server.sessionFor config server.workspace server.database = (.ok session, opened) ∧
    opened.system = system ∧ opened.workspace = server.workspace ∧
      opened.database = server.database ∧
      opened.sessions.find? (fun entry =>
          entry.workspace.same server.workspace && entry.database.same server.database) =
        some ⟨server.workspace, server.database, session⟩

theorem offers_of_start {before : FileSystem} {workspace database : Path}
    (starts : Session.start config before workspace database = (.ok session, system)) :
    Offers config ⟨workspace, database, [], before⟩ session system := by
  have same (path : Path) : path.same path = true := beq_self_eq_true _
  refine ⟨⟨workspace, database, [⟨workspace, database, session⟩], system⟩, ?_, rfl, rfl, rfl, ?_⟩
  · simp only [sessionFor, List.find?_nil, starts]
  · simp [same]

/-- The parts of a message that calls the tool are what a call is read from. -/
theorem toolCall_of_isCallFor {message : Json} {method : String} {params : Json}
    (isCall : IsCallFor message method params) (server : ToolServer) :
    ∃ call, toolCall (message.field? "params") = .ok call ∧ call.method = method ∧
      SameParams call.params params ∧
        server.target call.arguments = (server.workspace, server.database) := by
  obtain ⟨outer, arguments, isOuter, isTool, isArguments, isMethod, same, noWorkspace, noDatabase⟩ :=
    isCall.arguments
  refine ⟨⟨method, arguments⟩, ?_, rfl, same, ?_⟩
  · simp [toolCall, isOuter, isTool, isArguments, isMethod]
  · simp [target, noWorkspace, noDatabase]

/-- How a call of the tool shows an outcome. -/
def shown (compact : Bool) : Except Failure Json → Json
  | .ok result => toolResult result compact
  | .error failure => toolFailure failure

theorem tells_shown (id : Json) (compact : Bool) (outcome : Except Failure Json) :
    Tells (envelope id (.ok (shown compact outcome))) (outcome.mapError Failure.message) := by
  refine ⟨shown compact outcome, ?_, ?_⟩
  · simp [envelope, Json.field?, Json.ofFields, Json.lookup_setField]
  · cases outcome with
    | ok result =>
        simp [Except.mapError, shown, toolResult, Json.field?, Json.ofFields,
          Json.lookup_setField]
    | error failure =>
        simp [Except.mapError, shown, toolFailure, Json.field?, Json.ofFields,
          Json.lookup_setField]

/-- A session that is kept is offered again, whatever it has left behind. -/
theorem Offers.again {opened : ToolServer} (workspace : opened.workspace = server.workspace)
    (database : opened.database = server.database)
    (known : opened.sessions.find? (fun entry =>
        entry.workspace.same server.workspace && entry.database.same server.database) =
      some ⟨server.workspace, server.database, session⟩) (system : FileSystem) :
    Offers config { opened with system } session system := by
  rw [← workspace, ← database] at known
  refine ⟨{ opened with system }, ?_, rfl, rfl, rfl, known⟩
  simp only [sessionFor, known]

/-- A call of the tool is answered with what the request comes to in the session. -/
theorem Offers.answerCall (offers : Offers config server session system) {call : ToolCall}
    {method : String} {params : Json} (isMethod : call.method = method)
    (same : SameParams call.params params)
    (isTarget : server.target call.arguments = (server.workspace, server.database)) :
    let answer := session.request system config method params
    ∃ reached, Offers config reached session answer.2 ∧
      server.answerCall config call = (.ok (shown call.compact answer.1), reached) := by
  intro answer
  obtain ⟨opened, isOpened, isSystem, workspace, database, known⟩ := offers
  have performs : server.perform config call = (answer.1, { opened with system := answer.2 }) := by
    simp only [perform, isTarget, isOpened, isSystem, isMethod,
      session.request_congr config system method same]
    rfl
  have passes := (Session.answered_request config session system method params).passes
  refine ⟨_, .again workspace database known answer.2, ?_⟩
  rw [ToolServer.answerCall, performs]
  cases outcome : answer.1 with
  | ok result => rfl
  | error failure => simp [passes failure outcome, shown]

/-- The step: a call of the tool tells the outcome that the request has in the session, which is
kept. -/
theorem Offers.respondToLine (offers : Offers config server session system)
    (request : SharedRequest) :
    let answer := session.request system config request.method request.params
    ∃ told reached, server.respondToLine config request.message = (.ok (some told), reached) ∧
      Tells told (answer.1.mapError Failure.message) ∧ Offers config reached session answer.2 := by
  intro answer
  obtain ⟨value, parses, isCall⟩ := request.isMessage
  obtain ⟨id, identified⟩ := isCall.identified
  obtain ⟨call, reads, isMethod, same, isTarget⟩ := toolCall_of_isCallFor isCall server
  obtain ⟨reached, offersAgain, answers⟩ := offers.answerCall isMethod same isTarget
  refine ⟨envelope id (.ok (shown call.compact answer.1)), reached, ?_, tells_shown id _ _,
    offersAgain⟩
  simp only [ToolServer.respondToLine, parses, respond, identified, result, isCall.isCall, reads,
    answers]
  rfl

theorem Offers.respondToLines (offers : Offers config server session system)
    (requests : List SharedRequest) :
    ∃ answers final,
      server.respondToLines config (Server.requestLines (requests.map SharedRequest.message)) =
        (answers, none, final) ∧
      List.Forall₂ Tells answers (session.outcomes config system requests) := by
  induction requests generalizing server system with
  | nil => exact ⟨[], server, rfl, .nil⟩
  | cons request rest ih =>
      obtain ⟨value, parses, -⟩ := request.isMessage
      have asks : Text.allBlank request.message = false := Json.allBlank_of_parse parses
      obtain ⟨told, reached, responds, tells, offersAgain⟩ := offers.respondToLine request
      obtain ⟨answers, final, others, all⟩ := ih offersAgain
      refine ⟨told :: answers, final, ?_, .cons tells all⟩
      simp only [Server.requestLines] at others
      simp [Server.requestLines, asks, ToolServer.respondToLines, responds, others]

end ToolServer

/-- The three front ends agree on all requests, on whatever database can be opened but for one in
memory that nobody else has open. -/
theorem frontEnds_agree {config : Config} {session : Session} {system opened : FileSystem}
    {workspace database : Path}
    (starts : Session.start config system workspace database = (.ok session, opened))
    (keeps : ∀ name, session.seat = .memory name → system.memory.contains name = true)
    (requests : List SharedRequest) :
    FrontEndsAgree config system workspace database requests := by
  obtain ⟨isRoot, isPath, -⟩ := Session.paths_of_start starts
  refine ⟨session.outcomes config opened requests, session.length_outcomes config opened requests,
    ?_, ?_, ?_⟩
  · obtain ⟨responses, final, responds, outcomes⟩ :=
      session.respondToLines_shared config opened requests
    exact ⟨responses, final, by simp only [LineServer.serve, starts, responds], outcomes⟩
  · subst isRoot isPath
    have resumes : session.Resumes config system opened :=
      ⟨⟨opened, starts, .refl opened⟩, keeps⟩
    exact resumes.callAll requests
  · exact (ToolServer.offers_of_start starts).respondToLines requests

/-- A request for an import from a file in the root directory. -/
def importRequest : SharedRequest where
  method := "import"
  params := .object [("path", .text "/i.json")]
  line := "\x7b\"method\":\"import\",\"params\":\x7b\"path\":\"/i.json\"\x7d\x7d"
  paramsText := "\x7b\"path\":\"/i.json\"\x7d"
  idText := "1"
  message := "\x7b\"id\":1,\"method\":\"tools/call\",\"params\":\x7b\"name\":" ++
    "\"reftrace_query\",\"arguments\":\x7b\"method\":\"import\",\"params\":" ++
    "\x7b\"path\":\"/i.json\"\x7d\x7d\x7d\x7d"
  isLine := by
    refine ⟨⟨.null, "import", .object [("path", .text "/i.json")]⟩, ?_, rfl, rfl⟩
    decide +kernel
  isCall := by
    refine ⟨.object [("path", .text "/i.json")], ?_, rfl⟩
    decide +kernel
  isMessage := by
    let arguments : Json :=
      .object [("method", .text "import"), ("params", .object [("path", .text "/i.json")])]
    refine ⟨.object [("id", .integer 1), ("method", .text "tools/call"),
      ("params", .object [("arguments", arguments), ("name", .text "reftrace_query")])], ?_, ?_⟩
    · decide +kernel
    · exact ⟨⟨.integer 1, rfl⟩, rfl, ⟨_, arguments, rfl, rfl, rfl, rfl, rfl, rfl, rfl⟩⟩

/-- A request for counts, whose parameters are absent. -/
def statsRequest : SharedRequest where
  method := "stats"
  params := .null
  line := "\x7b\"method\":\"stats\"\x7d"
  paramsText := "null"
  idText := "2"
  message := "\x7b\"id\":2,\"method\":\"tools/call\",\"params\":\x7b\"name\":" ++
    "\"reftrace_query\",\"arguments\":\x7b\"method\":\"stats\"\x7d\x7d\x7d"
  isLine := by
    refine ⟨⟨.null, "stats", .null⟩, ?_, rfl, rfl⟩
    decide +kernel
  isCall := by
    refine ⟨.null, ?_, rfl⟩
    decide +kernel
  isMessage := by
    let arguments : Json := .object [("method", .text "stats")]
    refine ⟨.object [("id", .integer 2), ("method", .text "tools/call"),
      ("params", .object [("arguments", arguments), ("name", .text "reftrace_query")])], ?_, ?_⟩
    · decide +kernel
    · exact ⟨⟨.integer 2, rfl⟩, rfl, ⟨_, arguments, rfl, rfl, rfl, rfl, rfl, rfl, rfl⟩⟩

theorem frontEnds_agree_file :
    ∃ session opened,
      Session.start default (.empty ⟨"/"⟩) ⟨"/"⟩ ⟨"/index.db"⟩ = (.ok session, opened) ∧
        session.seat = .file ["index.db"] ∧
        FrontEndsAgree default (.empty ⟨"/"⟩) ⟨"/"⟩ ⟨"/index.db"⟩
          [importRequest, statsRequest] := by
  obtain ⟨session, opened, starts, isFile⟩ := Session.exists_start_empty
  refine ⟨session, opened, starts, isFile, frontEnds_agree starts (fun name isMemory => ?_) _⟩
  rw [isFile] at isMemory
  cases isMemory

/-! ## A database in memory goes with its session -/

/-- Where the front ends agree, single calls have the outcomes of a session that is kept. -/
theorem FrontEndsAgree.callAll {config : Config} {session : Session} {system opened : FileSystem}
    {workspace database : Path} {requests : List SharedRequest}
    (agree : FrontEndsAgree config system workspace database requests)
    (starts : Session.start config system workspace database = (.ok session, opened)) :
    ∃ (responses : List Response) (final : FileSystem),
      LineServer.callAll config workspace database system requests =
        (responses.map .ok, final) ∧
      responses.map Response.outcome = session.outcomes config opened requests := by
  obtain ⟨outcomes, -, ⟨served, final, serves, sameServed⟩, ⟨called, last, calls, sameCalled⟩, -⟩ :=
    agree
  obtain ⟨responses, reached, responds, kept⟩ :=
    session.respondToLines_shared config opened requests
  have same : responses = served := by
    simp only [LineServer.serve, starts, responds, Prod.mk.injEq, Except.ok.injEq] at serves
    exact serves.1
  refine ⟨called, last, calls, ?_⟩
  rw [sameCalled, ← sameServed, ← same, kept]

namespace SharedMemory

/-- The address of a database that is kept in memory for everybody who names it. -/
def address : Path :=
  ⟨"file:m.db?mode=memory&cache=shared"⟩

/-- The name under which it is kept. -/
def name : String :=
  "unix:m.db"

/-- The database when it has just been made. -/
def made : Database :=
  { Database.fresh with schemaVersion := some "1" }

/-- A document with one symbol. -/
def document : IndexDocument :=
  ⟨[⟨1, "a", .ofText "fn", "f", 1, 9⟩], []⟩

/-- The document as a text. -/
def text : String :=
  "[[[1,\"a\",\"fn\",\"f\",1,9]],[]]"

/-- A file system in which the document lies in the root directory. -/
def system : FileSystem :=
  (FileSystem.empty ⟨"/"⟩).put ["i.json"] (.file text.toUTF8)

theorem exists_start {before : FileSystem} (absent : before.memory[name]? = none) :
    ∃ session, Session.start default before ⟨"/"⟩ address =
        (.ok session, before.keep name made) ∧
      session.seat = .memory name ∧ session.isReadOnly = false ∧ session.root = ⟨"/"⟩ := by
  have isAddress : Address.ofPath address = .ok ⟨"m.db", .memory, true, .files, false, false⟩ := by
    decide +kernel
  have parent : before.ensureParent address = (.ok (), before) := rfl
  have clean : address.holdsZero = false := by decide
  have keeping : (⟨"m.db", .memory, true, .files, false, false⟩ : Address).keeping =
      .memory name := rfl
  have stored : before.memory.getD name .fresh = .fresh := by
    rw [Std.HashMap.getD_eq_getD_getElem?, absent, Option.getD_none]
  have opens : before.openDatabase address =
      (.ok ⟨.memory name, false⟩, before.keep name made) := by
    rw [FileSystem.openDatabase, parent]
    simp only [clean, isAddress, FileSystem.openAddress, keeping, FileSystem.openMemory, stored]
    rfl
  exact ⟨_, Session.start_of_openDatabase ⟨"/"⟩ rfl opens, rfl, rfl, rfl⟩

theorem absent_system : system.memory[name]? = none := by
  simp [system, FileSystem.put, FileSystem.empty]

theorem absent_call {before : FileSystem} (absent : before.memory[name]? = none)
    (method paramsText idText : String) :
    (LineServer.call default before ⟨"/"⟩ address method paramsText idText).2.memory[name]? =
      none := by
  obtain ⟨session, starts, isMemory, -, -⟩ := exists_start absent
  have unknown : before.memory.contains name = false := by
    rw [Std.HashMap.contains_eq_isSome_getElem?, absent]
    rfl
  rw [LineServer.call]
  split
  · exact absent
  · simp only [starts, isMemory, FileSystem.close, unknown]
    simp

theorem field?_stats (database : Database) (workspace : String) :
    (database.stats workspace).toJson.field? "symbols" =
      some (.ofNat (database.symbols.count workspace fun _ => true)) := by
  simp [WorkspaceStats.toJson, Database.stats, Json.field?, Json.ofFields, Json.lookup_setField]

theorem request_stats {session : Session} {before : FileSystem} {database : Database}
    (found : session.database? before = some database) (given : Json) :
    session.request before default "stats" given =
      (.ok (database.stats session.workspace).toJson, before) := by
  have named : Method.ofName? "stats" = some .stats := by decide
  simp only [Session.request, named, Session.perform, Session.stats, Session.read, found]
  rfl

theorem document_eq {session : Session} {before : FileSystem} (isRoot : session.root = ⟨"/"⟩)
    (file : before.get? ["i.json"] = some (.file text.toUTF8)) :
    session.document before ⟨"/i.json"⟩ = .ok document := by
  have resolved : session.root.resolveFrom ⟨"/i.json"⟩ = ⟨"/i.json"⟩ := by
    rw [isRoot]
    decide
  have located : before.locate ⟨"/i.json"⟩ = .ok ["i.json"] := rfl
  have decoded : String.fromUTF8? text.toUTF8 = some text := dif_pos text.isValidUTF8
  have content : before.readText ⟨"/i.json"⟩ = .ok text := by
    simp only [FileSystem.readText, FileSystem.find, located, file, bind, Except.bind, decoded]
  have parsed : IndexDocument.reader.readText text = .ok document := by decide +kernel
  rw [Session.document, resolved]
  simp only [content, parsed, Except.mapError, bind, Except.bind]

theorem request_import {session : Session} {before : FileSystem}
    (isMemory : session.seat = .memory name) (writable : session.isReadOnly = false)
    (isRoot : session.root = ⟨"/"⟩) (found : session.database? before = some made)
    (file : before.get? ["i.json"] = some (.file text.toUTF8)) :
    (session.request before default "import" importRequest.params).2 =
      before.keep name ((made.clear session.workspace).writeDocument session.workspace
        document) := by
  have named : Method.ofName? "import" = some .importDocument := by decide
  have given : Session.params ImportParams.record (Session.givenParams importRequest.params) =
      .ok ⟨"/i.json", none⟩ := rfl
  have reads := document_eq isRoot file
  have upright : document.symbols.any Symbol.isInverted = false := by decide
  have accepts := Database.importDocument_of_upright upright made session.workspace true
  simp only [Session.request, named, Session.perform, Session.importFile, given, reads, bind,
    Except.bind, pure, Except.pure, Session.importDocument, found, Option.getD_some,
    Option.getD_none, Bool.not_false, accepts, writable, Bool.false_and, Session.store, isMemory,
    FileSystem.store]
  rfl

/-- A session that is kept finds the symbol that it has imported. -/
theorem outcomes_kept {session : Session} (isMemory : session.seat = .memory name)
    (writable : session.isReadOnly = false) (isRoot : session.root = ⟨"/"⟩) :
    ∃ counts, (session.outcomes default (system.keep name made)
        [importRequest, statsRequest])[1]? = some (.ok counts) ∧
      counts.field? "symbols" = some (.ofNat 1) := by
  let written := (made.clear session.workspace).writeDocument session.workspace document
  have found (before : FileSystem) (database : Database) :
      session.database? (before.keep name database) = some database := by
    rw [Session.database?, isMemory]
    exact Std.HashMap.getElem?_insert_self
  have file : (system.keep name made).get? ["i.json"] = some (.file text.toUTF8) := by
    simp [FileSystem.get?, FileSystem.keep, system, FileSystem.put]
  have imports := request_import isMemory writable isRoot (found system made) file
  have counts := request_stats (found (system.keep name made) written) .null
  refine ⟨(written.stats session.workspace).toJson, ?_, ?_⟩
  · change some ((session.request (session.request (system.keep name made) default "import"
      importRequest.params).2 default "stats" .null).1.mapError Failure.message) = _
    rw [imports, counts]
    rfl
  · rw [field?_stats]
    have one : (written.symbols.count session.workspace fun _ => true) = 1 := by
      simp [written, document, made, Database.clear, Database.writeDocument,
        Database.writeSymbol, Database.fresh, Table.clear, Table.write, Table.count, Table.empty]
    rw [one]

/-- A call that comes after another one finds nothing. -/
theorem call_afresh {before : FileSystem} (absent : before.memory[name]? = none) :
    ∃ response counts, (LineServer.call default before ⟨"/"⟩ address "stats" "null" "2").1 =
        .ok response ∧ response.outcome = .ok counts ∧
      counts.field? "symbols" = some (.ofNat 0) := by
  obtain ⟨session, starts, isMemory, -, -⟩ := exists_start absent
  have found : session.database? (before.keep name made) = some made := by
    rw [Session.database?, isMemory]
    exact Std.HashMap.getElem?_insert_self
  have parses : Json.parse "null" = .ok .null := by decide +kernel
  refine ⟨⟨LineServer.identification "2", .ok (made.stats session.workspace).toJson⟩,
    (made.stats session.workspace).toJson, ?_, rfl, ?_⟩
  · simp only [LineServer.call, parses, starts, Session.respond_eq, request_stats found]
    rfl
  · rw [field?_stats]
    rfl

/-- A call for counts after a call for an import finds nothing, but a session that is kept finds what
it has imported. -/
theorem frontEnds_disagree :
    (∃ session opened, Session.start default system ⟨"/"⟩ address = (.ok session, opened)) ∧
      system.isDirectory ⟨"/"⟩ = true ∧
      ¬FrontEndsAgree default system ⟨"/"⟩ address [importRequest, statsRequest] := by
  obtain ⟨session, starts, isMemory, writable, isRoot⟩ := exists_start absent_system
  refine ⟨⟨session, _, starts⟩, rfl, ?_⟩
  intro agree
  obtain ⟨responses, last, calls, same⟩ := agree.callAll starts
  obtain ⟨counts, isKept, one⟩ := outcomes_kept isMemory writable isRoot
  -- The call for an import closes its session, and the database in memory is gone.
  have gone := absent_call absent_system "import" importRequest.paramsText "1"
  obtain ⟨response, others, isAfresh, isCounted, zero⟩ := call_afresh gone
  have second : (responses.map (Except.ok : Response → Except Failure Response))[1]? =
      some (.ok response) := by
    have all : responses.map Except.ok = (LineServer.callAll default ⟨"/"⟩ address system
        [importRequest, statsRequest]).1 := (congrArg Prod.fst calls).symm
    rw [all, ← isAfresh]
    rfl
  have sameCounts : counts = others := by
    rw [← same, List.getElem?_map] at isKept
    simp only [List.getElem?_map, Option.map_eq_some_iff, Except.ok.injEq] at second isKept
    obtain ⟨answered, isSecond, rfl⟩ := second
    obtain ⟨called, isCalled, isOutcome⟩ := isKept
    obtain rfl : called = answered := Option.some.inj (isCalled.symm.trans isSecond)
    exact Except.ok.inj (isOutcome.symm.trans isCounted)
  rw [sameCounts, zero] at one
  exact absurd one (by decide)

end SharedMemory

end CallTrace
