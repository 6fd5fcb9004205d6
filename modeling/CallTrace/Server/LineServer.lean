import CallTrace.Server.Lines
import CallTrace.Server.Request
import CallTrace.Session.Request

/-!
# The line server

A server that answers every line that is not blank with one line, in a single session. A line that
is no request is answered with a failure.
-/

namespace CallTrace

/-- The response to a request in a session. -/
def Session.respond (session : Session) (system : FileSystem) (config : Config)
    (request : Request) : Response × FileSystem :=
  let (outcome, reached) := session.request system config request.method request.params
  ({ id := request.id, outcome := outcome.mapError Failure.message }, reached)

/-- The response to a line in a session. -/
def Session.respondToLine (session : Session) (system : FileSystem) (config : Config)
    (line : String) : Response × FileSystem :=
  match Request.ofLine line with
  | .ok request => session.respond system config request
  | .error misread =>
    ({ id := .null, outcome := .error ("invalid request: " ++ misread.message) }, system)

/-- The responses to some lines, one after another. -/
def Session.respondToLines (session : Session) (config : Config) :
    FileSystem → List String → List Response × FileSystem
  | system, [] => ([], system)
  | system, line :: rest =>
    let (response, reached) := session.respondToLine system config line
    let (responses, final) := respondToLines session config reached rest
    (response :: responses, final)

namespace LineServer

/-- Serve some lines of input. -/
def serve (config : Config) (system : FileSystem) (workspace database : Path)
    (lines : List String) : Except Failure (List Response) × FileSystem :=
  match Session.start config system workspace database with
  | (.error failure, reached) => (.error failure, reached)
  | (.ok session, reached) =>
    let (responses, final) :=
      session.respondToLines config reached (Server.requestLines lines)
    (.ok responses, final)

/-- The identification that a text gives: the value it writes, or else the text itself. -/
def identification (text : String) : Json :=
  match Json.parse text with
  | .ok value => value
  | .error _ => .text text

/-- Answer a single request in a session of its own, with parameters and identification as texts. -/
def call (config : Config) (system : FileSystem) (workspace database : Path)
    (method paramsText idText : String) : Except Failure Response × FileSystem :=
  match Json.parse paramsText with
  | .error misread => (.error (.badParamsText misread), system)
  | .ok params =>
    match Session.start config system workspace database with
    | (.error failure, reached) => (.error failure, reached)
    | (.ok session, reached) =>
      let (response, final) :=
        session.respond reached config { id := identification idText, method, params }
      (.ok response, final.close system session.seat)

end LineServer

end CallTrace
