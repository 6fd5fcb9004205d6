import CallTrace.Database.Basic
import CallTrace.Json.Printer
import CallTrace.Json.Reader

/-!
# Databases as files

The content of a database file: a heading, and a line of structured data in which every row is a
list of its columns.
-/

namespace CallTrace

open Json

/-- The line that a database file begins with. -/
def databaseHeading : String :=
  "calltrace database 1\n"

/-- A stored symbol as a list of its columns. -/
def SymbolColumns.toJson (row : Row SymbolColumns) : Json :=
  .array [
    ofNat row.seq, .text row.workspace, ofInt64 row.id, .text row.columns.name,
    .text row.columns.kind, .text row.columns.filePath, ofInt64 row.columns.startLine,
    ofInt64 row.columns.endLine]

/-- Read a stored symbol from a list of its columns. -/
def SymbolColumns.ofJson? : Json → Option (Row SymbolColumns)
  | .array [.number (.integer seq), .text workspace, .number (.integer id), .text name,
      .text kind, .text filePath, .number (.integer startLine), .number (.integer endLine)] =>
    some
      { seq := seq.toNat
        workspace
        id := .ofInt id
        columns :=
          { name, kind, filePath, startLine := .ofInt startLine, endLine := .ofInt endLine } }
  | _ => none

/-- A stored identifier as a list of its columns. -/
def IdentifierColumns.toJson (row : Row IdentifierColumns) : Json :=
  .array [
    ofNat row.seq, .text row.workspace, ofInt64 row.id, .text row.columns.name,
    .text row.columns.foldedName, .text row.columns.kind, .text row.columns.filePath,
    ofOption ofInt64 row.columns.line, ofOption ofInt64 row.columns.containerId,
    ofOption ofInt64 row.columns.targetId]

/-- Read a number that may be absent. -/
def int64OrAbsent? : Json → Option (Option Int64)
  | .null => some none
  | .number (.integer value) => some (some (.ofInt value))
  | _ => none

/-- Read a stored identifier from a list of its columns. -/
def IdentifierColumns.ofJson? : Json → Option (Row IdentifierColumns)
  | .array [.number (.integer seq), .text workspace, .number (.integer id), .text name,
      .text foldedName, .text kind, .text filePath, line, container, target] => do
    let line ← int64OrAbsent? line
    let containerId ← int64OrAbsent? container
    let targetId ← int64OrAbsent? target
    return {
      seq := seq.toNat
      workspace
      id := .ofInt id
      columns := { name, foldedName, kind, filePath, line, containerId, targetId } }
  | _ => none

namespace Database

/-- The database as structured data. -/
def toJson (database : Database) : Json :=
  ofFields [
    ("schema_version", ofOption Json.text database.schemaVersion),
    ("logged", .boolean database.logged),
    ("symbols", ofList SymbolColumns.toJson database.symbols.rows),
    ("identifiers", ofList IdentifierColumns.toJson database.identifiers.rows)]

/-- Read a database from structured data. -/
def ofJson? (value : Json) : Option Database := do
  let .array symbols ← value.field? "symbols" | none
  let .array identifiers ← value.field? "identifiers" | none
  let symbols ← symbols.mapM SymbolColumns.ofJson?
  let identifiers ← identifiers.mapM IdentifierColumns.ofJson?
  let schemaVersion := (value.field? "schema_version").bind Json.text?
  let logged ← (value.field? "logged").bind Json.boolean?
  return { schemaVersion, symbols := ⟨symbols⟩, identifiers := ⟨identifiers⟩, logged }

/-- The content of the file of a database. -/
def toFile (database : Database) : ByteArray :=
  (databaseHeading ++ database.toJson.compact ++ "\n").toUTF8

/-- The database that a file holds. -/
def ofFile? (content : ByteArray) : Option Database := do
  let text ← String.fromUTF8? content
  if text.startsWith databaseHeading then
    let value ← (Json.parse (text.drop databaseHeading.length).toString).toOption
    ofJson? value
  else
    none

end Database

end CallTrace
