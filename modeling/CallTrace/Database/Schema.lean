import CallTrace.Database.Basic
import CallTrace.Text.Integer

/-!
# The version of a database's schema

The version is stored as a text. A text that is no number counts as version zero, and so does a
missing one. A database of an older version is brought up to the present one when it is opened; one
of a newer version is refused.
-/

namespace CallTrace.Database

/-- The present version of the schema. -/
def presentVersion : Int64 := 1

/-- The version that a database has. -/
def version (database : Database) : Int64 :=
  (database.schemaVersion.bind Text.integer?).getD 0

/-- The database at the present version, or the newer version that it has. -/
def migrate (database : Database) : Except Int64 Database :=
  if presentVersion < database.version then
    .error database.version
  else if database.version < presentVersion then
    .ok { database with schemaVersion := some (toString presentVersion.toInt) }
  else
    .ok database

end CallTrace.Database
