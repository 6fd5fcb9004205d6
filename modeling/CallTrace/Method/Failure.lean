import CallTrace.FileSystem.Opening
import CallTrace.Inquiry.Conduct
import CallTrace.Json.Fault

/-!
# Failures

Why a request came to nothing, how that is worded, and what lies behind it.
-/

namespace CallTrace

/-- Why a store gave no answer or was not changed. -/
inductive StoreFault where
  /-- A database that only another connection sees has no tables. -/
  | missingTable (table : String)
  /-- The database may only be read. -/
  | readOnly
deriving DecidableEq, Repr

namespace StoreFault

/-- The wording of a fault. -/
def message : StoreFault → String
  | missingTable table => "no such table: " ++ table
  | readOnly => "attempt to write a readonly database"

/-- What lies behind a fault. -/
def causes : StoreFault → List String
  | missingTable _ => [ResultCode.error.message]
  | readOnly => [ResultCode.readOnly.message]

end StoreFault

/-- Why a request came to nothing. -/
inductive Failure where
  /-- The database could not be opened. -/
  | opening (fault : OpenFault)
  /-- The settings ask for connections that cannot be kept. -/
  | unsoundPool
  /-- There is no such method. -/
  | unknownMethod (name : String)
  /-- The parameters do not fit the method. -/
  | badParams (fault : Json.Fault)
  /-- The text of the parameters could not be read. -/
  | badParamsText (misread : Json.Misread)
  /-- A file could not be read. -/
  | unreadable (path : Path) (fault : FileFault)
  /-- A file holds no index document. -/
  | badDocument (path : Path) (misread : Json.Misread)
  /-- A symbol ends before it starts. -/
  | inverted (symbol : Symbol)
  /-- The store gave no answer or was not changed. -/
  | store (fault : StoreFault)
  /-- An inquiry came to no value. -/
  | inquiry (fault : InquiryFault StoreFault)
  /-- The word names no direction. -/
  | invalidDirection (word : String)
  /-- The word names no format. -/
  | invalidFormat (word : String)
deriving DecidableEq, Repr

namespace Failure

/-- The wording of a failure. -/
def message : Failure → String
  | opening fault => fault.message
  | unsoundPool => "connection pool settings are unsound"
  | unknownMethod name => "unknown method: " ++ name
  | badParams fault => fault.message
  | badParamsText _ => "parse params JSON"
  | unreadable path _ => "read " ++ path.text
  | badDocument path _ => "parse index document " ++ path.text
  | inverted symbol =>
    "symbol " ++ toString symbol.id.toInt ++ " (" ++ symbol.name ++ ") ends on line " ++
      toString symbol.endLine.toInt ++ " before it starts on line " ++
      toString symbol.startLine.toInt
  | store fault => fault.message
  | inquiry fault => fault.message StoreFault.message
  | invalidDirection word => "invalid direction: " ++ word ++ " (expected up, down or both)"
  | invalidFormat word => "invalid format: " ++ word ++ " (expected json or tree)"

/-- What lies behind a failure, the nearest cause first. -/
def causes : Failure → List String
  | opening fault => fault.causes
  | badParamsText misread => [misread.message]
  | unreadable _ fault => [fault.message]
  | badDocument _ misread => [misread.message]
  | store fault => fault.causes
  | inquiry (.store fault) => fault.causes
  | _ => []

/-- Whether the program cannot go on after a failure. -/
def isFatal : Failure → Bool
  | unsoundPool => true
  | _ => false

end Failure

end CallTrace
