/-!
# Result codes

Numbers that a database gives for what went wrong.
-/

namespace CallTrace

/-- The kind of a database's fault. -/
inductive ResultCode where
  /-- A statement or an address makes no sense. -/
  | error
  /-- Access is not allowed. -/
  | permission
  /-- The database may only be read. -/
  | readOnly
  /-- A file cannot be opened. -/
  | cannotOpen
  /-- A file is no database. -/
  | notDatabase
deriving DecidableEq, Repr

namespace ResultCode

/-- The number of a kind. -/
def number : ResultCode → Nat
  | error => 1
  | permission => 3
  | readOnly => 8
  | cannotOpen => 14
  | notDatabase => 26

/-- What the kind means in general. -/
def meaning : ResultCode → String
  | error => "SQL error or missing database"
  | permission => "Access permission denied"
  | readOnly => "Attempt to write a readonly database"
  | cannotOpen => "Unable to open the database file"
  | notDatabase => "File opened that is not a database file"

/-- The number of a kind and what it means. -/
def message (code : ResultCode) : String :=
  "Error code " ++ toString code.number ++ ": " ++ code.meaning

end ResultCode

end CallTrace
