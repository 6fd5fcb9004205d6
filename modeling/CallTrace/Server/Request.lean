import CallTrace.Json.Printer
import CallTrace.Json.Record

/-!
# Requests and responses

A request names a method and may give parameters and an identification. Its response carries the
identification and either a result or the wording of a failure.
-/

namespace CallTrace

open Json

/-- A request for a method. -/
structure Request where
  /-- Identification, which the response repeats. -/
  id : Json
  /-- Name of the method. -/
  method : String
  /-- Parameters of the method. -/
  params : Json
deriving Repr

namespace Request

/-- A request of which some fields have been read. -/
structure Draft where
  /-- Identification, if read. -/
  id : Option Json := none
  /-- Name of the method, if read. -/
  method : Option String := none
  /-- Parameters, if read. -/
  params : Option Json := none

/-- Requests as records: identification and parameters may be missing. -/
def record : Record Draft Request where
  name := "RpcRequest"
  blank := {}
  fields := [
    ⟨"id", [], true, fun draft => draft.id.isSome,
      Reader.any.map fun value draft => { draft with id := some value }⟩,
    ⟨"method", [], false, fun draft => draft.method.isSome,
      Reader.text.map fun value draft => { draft with method := some value }⟩,
    ⟨"params", [], true, fun draft => draft.params.isSome,
      Reader.any.map fun value draft => { draft with params := some value }⟩]
  finish draft := do
    let method ← required "method" draft.method
    return { id := draft.id.getD .null, method, params := draft.params.getD .null }

/-- Read a request from a line. -/
def ofLine (line : String) : Except Misread Request :=
  record.reader.readText line

end Request

/-- The response to a request. -/
structure Response where
  /-- Identification of the request. -/
  id : Json
  /-- The result, or the wording of a failure. -/
  outcome : Except String Json

/-- The response as a line. -/
def Response.text (response : Response) : String :=
  let outcome :=
    match response.outcome with
    | .ok result => "\"result\":" ++ result.compact
    | .error message => "\"error\":" ++ (ofFields [("message", .text message)]).compact
  "\x7b\"id\":" ++ response.id.compact ++ "," ++ outcome ++ "\x7d"

end CallTrace
