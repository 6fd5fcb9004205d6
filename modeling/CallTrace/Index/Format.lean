import CallTrace.Index.Symbol
import CallTrace.Json.Record

/-!
# The written form of an index

Symbols, identifiers and index documents as structured data. Kinds are written by their usual word.
The line of an identifier is left out when it is unknown, its two symbol numbers are written as
absent values; all three may be missing where an identifier is read.
-/

namespace CallTrace

open Json

namespace Symbol

/-- The written form of a symbol. -/
def toJson (symbol : Symbol) : Json :=
  ofFields [
    ("id", ofInt64 symbol.id),
    ("name", .text symbol.name),
    ("kind", .text symbol.kind.text),
    ("file_path", .text symbol.filePath),
    ("start_line", ofInt64 symbol.startLine),
    ("end_line", ofInt64 symbol.endLine)]

/-- A symbol of which some fields have been read. -/
structure Draft where
  /-- Number, if read. -/
  id : Option Int64 := none
  /-- Name, if read. -/
  name : Option String := none
  /-- Kind, if read. -/
  kind : Option SymbolKind := none
  /-- File, if read. -/
  filePath : Option String := none
  /-- First line, if read. -/
  startLine : Option Int64 := none
  /-- Last line, if read. -/
  endLine : Option Int64 := none

/-- Symbols as records: every field must be there. -/
def record : Record Draft Symbol where
  name := "Symbol"
  blank := {}
  fields := [
    ⟨"id", [], false, fun draft => draft.id.isSome,
      Reader.int64.map fun value draft => { draft with id := some value }⟩,
    ⟨"name", [], false, fun draft => draft.name.isSome,
      Reader.text.map fun value draft => { draft with name := some value }⟩,
    ⟨"kind", [], false, fun draft => draft.kind.isSome,
      Reader.text.map fun value draft => { draft with kind := some (.ofText value) }⟩,
    ⟨"file_path", [], false, fun draft => draft.filePath.isSome,
      Reader.text.map fun value draft => { draft with filePath := some value }⟩,
    ⟨"start_line", [], false, fun draft => draft.startLine.isSome,
      Reader.int64.map fun value draft => { draft with startLine := some value }⟩,
    ⟨"end_line", [], false, fun draft => draft.endLine.isSome,
      Reader.int64.map fun value draft => { draft with endLine := some value }⟩]
  finish draft := do
    let id ← required "id" draft.id
    let name ← required "name" draft.name
    let kind ← required "kind" draft.kind
    let filePath ← required "file_path" draft.filePath
    let startLine ← required "start_line" draft.startLine
    let endLine ← required "end_line" draft.endLine
    return { id, name, kind, filePath, startLine, endLine }

/-- Reads a symbol. -/
def reader : Reader Symbol :=
  record.reader

end Symbol

namespace Identifier

/-- The written form of an identifier. -/
def toJson (identifier : Identifier) : Json :=
  ofFields (
    [("id", ofInt64 identifier.id),
      ("name", .text identifier.name),
      ("kind", .text identifier.kind.text),
      ("file_path", .text identifier.filePath),
      ("containing_symbol_id", ofOption ofInt64 identifier.containerId),
      ("target_symbol_id", ofOption ofInt64 identifier.targetId)] ++
    match identifier.line with
    | some line => [("line", ofInt64 line)]
    | none => [])

/-- An identifier of which some fields have been read. -/
structure Draft where
  /-- Number, if read. -/
  id : Option Int64 := none
  /-- Name, if read. -/
  name : Option String := none
  /-- Kind, if read. -/
  kind : Option IdentifierKind := none
  /-- File, if read. -/
  filePath : Option String := none
  /-- Line, if read; it may be read as absent. -/
  line : Option (Option Int64) := none
  /-- Number of the symbol around it, if read; it may be read as absent. -/
  containerId : Option (Option Int64) := none
  /-- Number of the symbol that it refers to, if read; it may be read as absent. -/
  targetId : Option (Option Int64) := none

/-- Identifiers as records: the last three fields may be missing. -/
def record : Record Draft Identifier where
  name := "Identifier"
  blank := {}
  fields := [
    ⟨"id", [], false, fun draft => draft.id.isSome,
      Reader.int64.map fun value draft => { draft with id := some value }⟩,
    ⟨"name", [], false, fun draft => draft.name.isSome,
      Reader.text.map fun value draft => { draft with name := some value }⟩,
    ⟨"kind", [], false, fun draft => draft.kind.isSome,
      Reader.text.map fun value draft => { draft with kind := some (.ofText value) }⟩,
    ⟨"file_path", [], false, fun draft => draft.filePath.isSome,
      Reader.text.map fun value draft => { draft with filePath := some value }⟩,
    ⟨"line", [], true, fun draft => draft.line.isSome,
      Reader.int64.optional.map fun value draft => { draft with line := some value }⟩,
    ⟨"containing_symbol_id", [], true, fun draft => draft.containerId.isSome,
      Reader.int64.optional.map fun value draft => { draft with containerId := some value }⟩,
    ⟨"target_symbol_id", [], true, fun draft => draft.targetId.isSome,
      Reader.int64.optional.map fun value draft => { draft with targetId := some value }⟩]
  finish draft := do
    let id ← required "id" draft.id
    let name ← required "name" draft.name
    let kind ← required "kind" draft.kind
    let filePath ← required "file_path" draft.filePath
    let line := draft.line.join
    let containerId := draft.containerId.join
    let targetId := draft.targetId.join
    return { id, name, kind, filePath, line, containerId, targetId }

/-- Reads an identifier. -/
def reader : Reader Identifier :=
  record.reader

end Identifier

namespace IndexDocument

/-- The written form of an index document. -/
def toJson (document : IndexDocument) : Json :=
  ofFields [
    ("symbols", ofList Symbol.toJson document.symbols),
    ("identifiers", ofList Identifier.toJson document.identifiers)]

/-- An index document of which some fields have been read. -/
structure Draft where
  /-- Symbols, if read. -/
  symbols : Option (List Symbol) := none
  /-- Identifiers, if read. -/
  identifiers : Option (List Identifier) := none

/-- Index documents as records: a missing list is empty. -/
def record : Record Draft IndexDocument where
  name := "IndexDocument"
  blank := {}
  fields := [
    ⟨"symbols", [], true, fun draft => draft.symbols.isSome,
      Symbol.reader.list.map fun value draft => { draft with symbols := some value }⟩,
    ⟨"identifiers", [], true, fun draft => draft.identifiers.isSome,
      Identifier.reader.list.map fun value draft => { draft with identifiers := some value }⟩]
  finish draft := .ok ⟨draft.symbols.getD [], draft.identifiers.getD []⟩

/-- Reads an index document. -/
def reader : Reader IndexDocument :=
  record.reader

end IndexDocument

end CallTrace
