import CallTrace.Proofs.Comparison
import CallTrace.Proofs.Exchanges
import CallTrace.Server.ToolServer

/-!
# The tool server, line by line

A line that is not blank gets one answer, unless it is a notification or no message at all, and the
server goes on after every call of the tool that fails. Only calls of tools open sessions or reach a
database, so all answers are the same without any lines that are none. This takes settings under
which connections can be kept: under others the first session that is opened ends the server.
-/

namespace CallTrace

open Json
open Server (Exchange Serves)

/-! ## What answers look like -/

namespace ToolServer

/-- The answer is one of the protocol: it carries an identification, and either a result or an
error. -/
structure IsReply (id answer : Json) : Prop where
  /-- It tells the version of the protocol. -/
  version : answer.field? "jsonrpc" = some (.text "2.0")
  /-- It repeats the identification. -/
  id : answer.field? "id" = some id
  /-- It has exactly one outcome. -/
  outcome : (answer.field? "result").isSome ≠ (answer.field? "error").isSome

/-- The answer is an error with a code. -/
def HasErrorCode (answer : Json) (code : Int) : Prop :=
  ∃ error, answer.field? "error" = some error ∧ error.field? "code" = some (.integer code)

/-- The answer is a result that tells of a failure. -/
def TellsFailure (answer : Json) (failure : Failure) : Prop :=
  ∃ result, answer.field? "result" = some result ∧
    result.field? "content" = some (textContent failure.message) ∧
    result.field? "isError" = some (.boolean true)

theorem isReply_envelope (id : Json) (outcome : Except ProtocolError Json) :
    IsReply id (envelope id outcome) := by
  cases outcome <;>
    exact ⟨by simp [envelope, field?, ofFields, lookup_setField],
      by simp [envelope, field?, ofFields, lookup_setField],
      by simp [envelope, field?, ofFields, lookup_setField]⟩

theorem hasErrorCode_envelope (id : Json) (error : ProtocolError) :
    HasErrorCode (envelope id (.error error)) error.code := by
  refine ⟨ofFields [("code", integer error.code), ("message", .text error.message)], ?_, ?_⟩ <;>
    simp [envelope, field?, ofFields, lookup_setField]

theorem tellsFailure_envelope (id : Json) (failure : Failure) :
    TellsFailure (envelope id (.ok (toolFailure failure))) failure := by
  refine ⟨toolFailure failure, ?_, ?_, ?_⟩ <;>
    simp [envelope, toolFailure, field?, ofFields, lookup_setField]

/-- The message asks for a call of a tool. -/
def IsToolCall (message : Json) : Prop :=
  (∃ id, message.field? "id" = some id) ∧
    (message.field? "method").bind Json.text? = some "tools/call"

/-- The line asks for no call of a tool. -/
def IsQuiet (exchange : Exchange ToolServer Json) : Prop :=
  ∀ message, Json.parse exchange.line = .ok message → ¬IsToolCall message

/-- The line is answered as the protocol demands. -/
inductive IsFramed (config : Config) : Exchange ToolServer Json → Prop where
  /-- A blank line gets no answer. -/
  | blank {line : String} {server : ToolServer} (blank : Text.allBlank line = true) :
      IsFramed config ⟨line, server, none, server⟩
  /-- A line that is not written as structured data gets an error. -/
  | misread {line : String} {server : ToolServer} {answer : Json} (misread : Misread)
      (asks : Text.allBlank line = false) (fails : Json.parse line = .error misread)
      (isReply : IsReply .null answer) (isError : HasErrorCode answer (-32700)) :
      IsFramed config ⟨line, server, some answer, server⟩
  /-- What is no object or has no identification gets no answer. -/
  | unidentified {line : String} {server : ToolServer} (message : Json)
      (parses : Json.parse line = .ok message) (noId : message.field? "id" = none) :
      IsFramed config ⟨line, server, none, server⟩
  /-- Every other message gets an answer. -/
  | answered {line : String} {before after : ToolServer} {answer : Json} (message id : Json)
      (parses : Json.parse line = .ok message) (identified : message.field? "id" = some id)
      (isReply : IsReply id answer)
      (tells : ∀ call failure, IsToolCall message →
        toolCall (message.field? "params") = .ok call →
        (before.perform config call).1 = .error failure → TellsFailure answer failure)
      (stays : ¬IsToolCall message → after = before) :
      IsFramed config ⟨line, before, some answer, after⟩

theorem IsFramed.after_eq {config : Config} {exchange : Exchange ToolServer Json}
    (framed : IsFramed config exchange) (quiet : IsQuiet exchange) :
    exchange.after = exchange.before := by
  cases framed with
  | blank blank => rfl
  | misread misread asks fails isReply isError => rfl
  | unidentified message parses noId => rfl
  | answered message id parses identified isReply tells stays => exact stays (quiet message parses)

/-! ## One line -/

variable {config : Config}

theorem passes_start (sound : config.poolIsSound = true) (system : FileSystem)
    (workspace database : Path) :
    Failure.Passes (Session.start config system workspace database).1 := by
  rw [Session.start]
  split
  · exact Failure.passes_error rfl
  · rw [if_pos sound]
    exact Failure.passes_ok _

/-- Where connections can be kept, the program goes on after every call. -/
theorem passes_perform (sound : config.poolIsSound = true) (server : ToolServer)
    (call : ToolCall) : Failure.Passes (server.perform config call).1 := by
  have opens (workspace database : Path) :
      Failure.Passes (server.sessionFor config workspace database).1 := by
    have starts := passes_start sound server.system workspace database
    rw [sessionFor]
    split
    · exact Failure.passes_ok _
    · split
      · rename_i failure reached fails
        rw [fails] at starts
        exact starts
      · exact Failure.passes_ok _
  rw [perform]
  simp only
  split
  · rename_i failure reached fails
    have passes := opens (server.target call.arguments).1 (server.target call.arguments).2
    rw [fails] at passes
    exact Failure.passes_error (passes failure rfl)
  · rename_i session reached _
    exact (Session.answered_request config session reached.system call.method call.params).passes

/-- A call gets a result, which tells of the failure when it failed. -/
theorem exists_answerCall (sound : config.poolIsSound = true) (server : ToolServer)
    (call : ToolCall) :
    ∃ result reached, server.answerCall config call = (.ok result, reached) ∧
      ∀ failure, (server.perform config call).1 = .error failure →
        result = toolFailure failure := by
  have passes := passes_perform sound server call
  rw [answerCall]
  split
  · rename_i result reached performs
    refine ⟨_, reached, rfl, fun failure failed => ?_⟩
    rw [performs] at failed
    cases failed
  · rename_i failure reached performs
    rw [performs] at passes
    rw [passes failure rfl]
    refine ⟨_, reached, rfl, fun other failed => ?_⟩
    rw [performs] at failed
    cases failed
    rfl

/-- A message with an identification gets a result or an error of the protocol. It tells of the
failure of a call, and only a call leaves anything behind. -/
theorem exists_result (sound : config.poolIsSound = true) (server : ToolServer)
    {message id : Json} (identified : message.field? "id" = some id) :
    ∃ outcome after, server.result config message = (.ok outcome, after) ∧
      (∀ call failure, IsToolCall message →
        toolCall (message.field? "params") = .ok call →
        (server.perform config call).1 = .error failure →
        outcome = .ok (toolFailure failure)) ∧
      (¬IsToolCall message → after = server) := by
  by_cases calls : (message.field? "method").bind Json.text? = some "tools/call"
  · have isToolCall : IsToolCall message := ⟨⟨id, identified⟩, calls⟩
    cases reads : toolCall (message.field? "params") with
    | error error =>
        refine ⟨.error error, server, ?_, fun call failure _ isCall => ?_, fun _ => rfl⟩
        · simp only [result, calls, reads]
        · cases isCall
    | ok call =>
        obtain ⟨answer, reached, answers, tells⟩ := exists_answerCall sound server call
        refine ⟨.ok answer, reached, ?_, fun other failure _ isCall failed => ?_,
          fun noCall => absurd isToolCall noCall⟩
        · simp only [result, calls, reads, answers]
          rfl
        · cases isCall
          rw [tells failure failed]
  · have noCall : ¬IsToolCall message := fun isToolCall => calls isToolCall.2
    have stays : ∃ outcome, server.result config message = (.ok outcome, server) := by
      rw [result]
      split
      · exact ⟨_, rfl⟩
      · exact ⟨_, rfl⟩
      · exact ⟨_, rfl⟩
      · exact ⟨_, rfl⟩
      · rename_i isCall
        exact absurd isCall calls
      · exact ⟨_, rfl⟩
    obtain ⟨outcome, results⟩ := stays
    exact ⟨outcome, server, results, fun _ _ isToolCall => absurd isToolCall noCall,
      fun _ => rfl⟩

/-- The server goes on after every line, and what it did with the line is what the protocol
demands. -/
theorem exists_respondToLine (sound : config.poolIsSound = true) (server : ToolServer)
    {line : String} (asks : Text.allBlank line = false) :
    ∃ answer? after, server.respondToLine config line = (.ok answer?, after) ∧
      IsFramed config ⟨line, server, answer?, after⟩ := by
  rw [respondToLine]
  cases parses : Json.parse line with
  | error misread =>
      exact ⟨_, server, rfl, .misread misread asks parses (isReply_envelope _ _)
        (hasErrorCode_envelope _ _)⟩
  | ok message =>
      simp only [respond]
      cases identified : message.field? "id" with
      | none => exact ⟨none, server, rfl, .unidentified message parses identified⟩
      | some id =>
          obtain ⟨outcome, after, results, tells, stays⟩ :=
            exists_result sound server identified
          refine ⟨some (envelope id outcome), after, ?_, .answered message id parses identified
            (isReply_envelope id outcome) (fun call failure isToolCall isCall failed => ?_) stays⟩
          · simp only [results]
            rfl
          · rw [tells call failure isToolCall isCall failed]
            exact tellsFailure_envelope id failure

/-! ## Many lines -/

/-- The server answers a line, or passes over it, and goes on. -/
def Responds (config : Config) (server : ToolServer) (line : String) (answer? : Option Json)
    (after : ToolServer) : Prop :=
  server.respondToLine config line = (.ok answer?, after)

variable {server final : ToolServer} {exchanges : List (Exchange ToolServer Json)}

theorem isFramed_of_serves (sound : config.poolIsSound = true)
    (serves : Serves (Responds config) server exchanges final) :
    ∀ exchange ∈ exchanges, IsFramed config exchange := by
  refine serves.forall_exchanges (fun _ _ => .blank) ?_
  intro line before answer? after asks responds
  obtain ⟨framedAnswer?, framedAfter, frames, framed⟩ := exists_respondToLine sound before asks
  obtain ⟨⟨⟩, rfl⟩ := Prod.mk.inj (frames.symm.trans responds)
  exact framed

theorem respondToLines_eq (serves : Serves (Responds config) server exchanges final) :
    server.respondToLines config (Server.requestLines (exchanges.map Exchange.line)) =
      (exchanges.filterMap Exchange.response?, none, final) := by
  refine serves.collected (fun answers final => (answers, none, final)) (fun _ => rfl) ?_
  intro before line answer? after rest answers last responds later
  rw [respondToLines, responds]
  simp only [later]

/-- Where connections can be kept, every line of the input is answered as the protocol demands, in
the order of the lines, and the answers can be told apart at the line breaks. A line that asks for no
call of a tool leaves the sessions and all files as they were, and whichever such lines are deleted
from the input, all other lines get the answers that they got. -/
theorem serve_framed (sound : config.poolIsSound = true) (system : FileSystem)
    (workspace database : Path) (lines : List String) :
    ∃ (exchanges : List (Exchange ToolServer Json)) (final : ToolServer),
      exchanges.map Exchange.line = lines ∧
        Serves (Responds config) ⟨workspace, database, [], system⟩ exchanges final ∧
        (∀ exchange ∈ exchanges, IsFramed config exchange ∧
          (IsQuiet exchange → exchange.after = exchange.before)) ∧
        serve config system workspace database lines =
          (exchanges.filterMap Exchange.response?, none, final) ∧
        Text.split '\n'
            (Server.printed ((exchanges.filterMap Exchange.response?).map Json.compact)).toList =
          (exchanges.filterMap Exchange.response?).map (fun answer => answer.compact.toList) ++
            [[]] ∧
        ∀ kept, Exchange.Thinned IsQuiet exchanges kept →
          serve config system workspace database (kept.map Exchange.line) =
            (kept.filterMap Exchange.response?, none, final) := by
  have total (server : ToolServer) (line : String) (asks : Text.allBlank line = false) :
      ∃ answer? after, Responds config server line answer? after := by
    obtain ⟨answer?, after, responds, -⟩ := exists_respondToLine sound server asks
    exact ⟨answer?, after, responds⟩
  obtain ⟨exchanges, final, sameLines, serves⟩ :=
    Server.exists_serves total ⟨workspace, database, [], system⟩ lines
  have framed := isFramed_of_serves sound serves
  have stays := fun exchange member => (framed exchange member).after_eq
  refine ⟨exchanges, final, sameLines, serves, fun exchange member =>
    ⟨framed exchange member, stays exchange member⟩, ?_,
    Server.split_printed Json.isSingleLine_compact _, fun kept thinned => ?_⟩
  · rw [serve, ← sameLines, respondToLines_eq serves]
  · rw [serve, respondToLines_eq (serves.thinned stays thinned)]

/-- A message that is a ping. -/
def pingLine : String :=
  "\x7b\"id\":null,\"method\":\"ping\"\x7d"

/-- A message that calls the tool. -/
def statsLine : String :=
  "\x7b\"id\":1,\"method\":\"tools/call\",\"params\":\x7b\"name\":" ++
    "\"reftrace_query\",\"arguments\":\x7b\"method\":\"stats\"\x7d\x7d\x7d"

/-- Lines of every kind: a blank one, one that is no message, a number, a notification, a ping and a
call. -/
def assortedLines : List String :=
  [" \t", "[", "7", "\x7b\"method\":\"initialized\"\x7d", pingLine, statsLine]

theorem serve_framed_assorted :
    (default : Config).poolIsSound = true ∧
      ∃ (exchanges : List (Exchange ToolServer Json)) (final : ToolServer),
        exchanges.map Exchange.line = assortedLines ∧
          Serves (Responds default) ⟨⟨"/"⟩, ⟨"/index.db"⟩, [], .empty ⟨"/"⟩⟩ exchanges final ∧
          (∀ exchange ∈ exchanges, IsFramed default exchange) ∧
          serve default (.empty ⟨"/"⟩) ⟨"/"⟩ ⟨"/index.db"⟩ assortedLines =
            (exchanges.filterMap Exchange.response?, none, final) := by
  have sound : (default : Config).poolIsSound = true := rfl
  obtain ⟨exchanges, final, sameLines, serves, framed, answers, -⟩ :=
    serve_framed sound (.empty ⟨"/"⟩) ⟨"/"⟩ ⟨"/index.db"⟩ assortedLines
  exact ⟨sound, exchanges, final, sameLines, serves, fun exchange member =>
    (framed exchange member).1, answers⟩

/-- Settings under which no connection can be kept. -/
def unsoundConfig : Config :=
  .ofVariables fun variableName =>
    if variableName = "REFTRACE_POOL_SIZE" then some "0" else none

/-- The arguments of the call. -/
def statsArguments : Json :=
  .object [("method", .text "stats")]

/-- The message that calls the tool. -/
def statsMessage : Json :=
  .object [("id", integer 1), ("method", .text "tools/call"),
    ("params", .object [("arguments", statsArguments), ("name", .text toolName)])]

/-- Under settings that allow no connection the first session that is opened ends everything. -/
theorem exists_start_unsound :
    ∃ opened, Session.start unsoundConfig (.empty ⟨"/"⟩) ⟨"/"⟩ ⟨"/index.db"⟩ =
      (.error .unsoundPool, opened) := by
  obtain ⟨session, opened, starts, -⟩ := Session.exists_start_empty
  obtain ⟨opens, -, -⟩ := Session.start_eq_ok starts
  have unsound : unsoundConfig.poolIsSound = false := by decide +kernel
  refine ⟨opened, ?_⟩
  rw [Session.start, opens]
  simp [unsound]

/-- The first call ends the server. -/
theorem exists_respondToLine_unsound (parses : Json.parse statsLine = .ok statsMessage) :
    ∃ reached, (ToolServer.mk ⟨"/"⟩ ⟨"/index.db"⟩ [] (.empty ⟨"/"⟩)).respondToLine unsoundConfig
      statsLine = (.error .unsoundPool, reached) := by
  obtain ⟨opened, fails⟩ := exists_start_unsound
  let before : ToolServer := ⟨⟨"/"⟩, ⟨"/index.db"⟩, [], .empty ⟨"/"⟩⟩
  have target : before.target statsArguments = (⟨"/"⟩, ⟨"/index.db"⟩) := rfl
  have performs : before.perform unsoundConfig ⟨"stats", statsArguments⟩ =
      (.error .unsoundPool, { before with system := opened }) := by
    simp only [perform, target, sessionFor, before, List.find?_nil, fails]
  have answers : before.answerCall unsoundConfig ⟨"stats", statsArguments⟩ =
      (.error .unsoundPool, { before with system := opened }) := by
    simp only [answerCall, performs]
    rfl
  have asks : (statsMessage.field? "method").bind Json.text? = some "tools/call" := rfl
  have calls : toolCall (statsMessage.field? "params") = .ok ⟨"stats", statsArguments⟩ := rfl
  have identified : statsMessage.field? "id" = some (integer 1) := rfl
  refine ⟨{ before with system := opened }, ?_⟩
  simp only [respondToLine, parses, respond, identified, result, asks, calls, before, answers]
  rfl

/-- Under settings that allow no connection the first call ends the server, and neither it nor the
ping behind it is answered. -/
theorem serve_unsoundPool :
    (∃ message, Json.parse statsLine = .ok message ∧ message.field? "id" = some (integer 1) ∧
        IsToolCall message) ∧
      (∃ message, Json.parse pingLine = .ok message ∧ message.field? "id" = some .null) ∧
      ∃ final, serve unsoundConfig (.empty ⟨"/"⟩) ⟨"/"⟩ ⟨"/index.db"⟩ [statsLine, pingLine] =
        ([], some .unsoundPool, final) := by
  have parses : Json.parse statsLine = .ok statsMessage := by decide +kernel
  have pings : Json.parse pingLine = .ok (.object [("id", .null), ("method", .text "ping")]) := by
    decide +kernel
  obtain ⟨reached, ends⟩ := exists_respondToLine_unsound parses
  refine ⟨⟨_, parses, rfl, ⟨_, rfl⟩, rfl⟩, ⟨_, pings, rfl⟩, reached, ?_⟩
  simp [serve, Server.requestLines, Json.allBlank_of_parse parses, respondToLines, ends]

end ToolServer

end CallTrace
