import CallTrace.Json.Record

/-!
# Parameters

The parameters that methods take, and how they are read. What is missing or absent is left open.
-/

namespace CallTrace

open Json

/-- A field of parameters that need not be there. -/
def openField {δ α : Type} (name : String) (aliases : List String) (reader : Reader α)
    (value : δ → Option (Option α)) (put : Option α → δ → δ) : RecordField δ where
  name
  aliases
  omissible := false
  filled draft := (value draft).isSome
  reader := reader.optional.map put

/-- Parameters of an import. -/
structure ImportParams where
  /-- The file that holds the index document. -/
  path : String
  /-- Whether what the workspace holds is kept. -/
  append : Option Bool
deriving DecidableEq, Repr

namespace ImportParams

/-- Parameters of which some fields have been read. -/
structure Draft where
  /-- The file, if read. -/
  path : Option String := none
  /-- Whether to keep, if read. -/
  append : Option (Option Bool) := none

/-- The parameters as a record. -/
def record : Record Draft ImportParams where
  name := "ImportParams"
  blank := {}
  fields := [
    ⟨"path", [], false, fun draft => draft.path.isSome,
      Reader.text.map fun value draft => { draft with path := some value }⟩,
    openField "append" [] .boolean (·.append)
      fun value draft => { draft with append := some value }]
  finish draft := do
    let path ← required "path" draft.path
    return { path, append := draft.append.join }

end ImportParams

/-- Parameters that give a symbol. -/
structure SymbolParams where
  /-- Number of the symbol. -/
  id : Int64
deriving DecidableEq, Repr

namespace SymbolParams

/-- Parameters of which some fields have been read. -/
structure Draft where
  /-- Number of the symbol, if read. -/
  id : Option Int64 := none

/-- The parameters as a record. -/
def record : Record Draft SymbolParams where
  name := "GetSymbolParams"
  blank := {}
  fields := [
    ⟨"id", ["symbol_id"], false, fun draft => draft.id.isSome,
      Reader.int64.map fun value _ => { id := some value }⟩]
  finish draft := do
    let id ← required "id" draft.id
    return { id }

end SymbolParams

/-- Which of the references that were found are listed. -/
structure PageParams where
  /-- Whether references without a known target are left out. -/
  resolvedOnly : Option Bool
  /-- Greatest number of references that are listed. -/
  limit : Option Nat
deriving DecidableEq, Repr

/-- Parameters of a search for the references to a name. -/
structure ReferencesParams where
  /-- The name. -/
  name : String
  /-- Whether its case matters. -/
  caseSensitive : Option Bool
  /-- What is listed. -/
  page : PageParams
deriving DecidableEq, Repr

namespace ReferencesParams

/-- Parameters of which some fields have been read. -/
structure Draft where
  /-- The name, if read. -/
  name : Option String := none
  /-- Whether case matters, if read. -/
  caseSensitive : Option (Option Bool) := none
  /-- What is left out, if read. -/
  resolvedOnly : Option (Option Bool) := none
  /-- Greatest number, if read. -/
  limit : Option (Option Nat) := none

/-- The parameters as a record. -/
def record : Record Draft ReferencesParams where
  name := "FindReferencesParams"
  blank := {}
  fields := [
    ⟨"name", ["symbol", "query"], false, fun draft => draft.name.isSome,
      Reader.text.map fun value draft => { draft with name := some value }⟩,
    openField "case_sensitive" [] .boolean (·.caseSensitive)
      fun value draft => { draft with caseSensitive := some value },
    openField "resolved_only" [] .boolean (·.resolvedOnly)
      fun value draft => { draft with resolvedOnly := some value },
    openField "limit" [] .count (·.limit)
      fun value draft => { draft with limit := some value }]
  finish draft := do
    let name ← required "name" draft.name
    return {
      name, caseSensitive := draft.caseSensitive.join
      page := ⟨draft.resolvedOnly.join, draft.limit.join⟩ }

end ReferencesParams

/-- Parameters of a search for the references to a symbol. -/
structure ReferencesOfParams where
  /-- Number of the symbol. -/
  id : Int64
  /-- What is listed. -/
  page : PageParams
deriving DecidableEq, Repr

namespace ReferencesOfParams

/-- Parameters of which some fields have been read. -/
structure Draft where
  /-- Number of the symbol, if read. -/
  id : Option Int64 := none
  /-- What is left out, if read. -/
  resolvedOnly : Option (Option Bool) := none
  /-- Greatest number, if read. -/
  limit : Option (Option Nat) := none

/-- The parameters as a record. -/
def record : Record Draft ReferencesOfParams where
  name := "FindReferencesByIdParams"
  blank := {}
  fields := [
    ⟨"id", ["symbol_id"], false, fun draft => draft.id.isSome,
      Reader.int64.map fun value draft => { draft with id := some value }⟩,
    openField "resolved_only" [] .boolean (·.resolvedOnly)
      fun value draft => { draft with resolvedOnly := some value },
    openField "limit" [] .count (·.limit)
      fun value draft => { draft with limit := some value }]
  finish draft := do
    let id ← required "id" draft.id
    return { id, page := ⟨draft.resolvedOnly.join, draft.limit.join⟩ }

end ReferencesOfParams

/-- Parameters of a trace. -/
structure TraceParams where
  /-- The traced name. -/
  name : String
  /-- Word for the direction. -/
  direction : Option String
  /-- Depth of the deepest calls. -/
  maxDepth : Option Nat
  /-- Whether the case of the name matters. -/
  caseSensitive : Option Bool
  /-- Whether symbols are passed over that stand on the branch. -/
  suppressCycles : Option Bool
  /-- Word for the format. -/
  format : Option String
deriving DecidableEq, Repr

namespace TraceParams

/-- Parameters of which some fields have been read. -/
structure Draft where
  /-- The traced name, if read. -/
  name : Option String := none
  /-- Word for the direction, if read. -/
  direction : Option (Option String) := none
  /-- Depth, if read. -/
  maxDepth : Option (Option Nat) := none
  /-- Whether case matters, if read. -/
  caseSensitive : Option (Option Bool) := none
  /-- Whether cycles are suppressed, if read. -/
  suppressCycles : Option (Option Bool) := none
  /-- Word for the format, if read. -/
  format : Option (Option String) := none

/-- The parameters as a record. -/
def record : Record Draft TraceParams where
  name := "TraceParams"
  blank := {}
  fields := [
    ⟨"name", ["symbol", "query"], false, fun draft => draft.name.isSome,
      Reader.text.map fun value draft => { draft with name := some value }⟩,
    openField "direction" [] .text (·.direction)
      fun value draft => { draft with direction := some value },
    openField "max_depth" ["depth"] .count (·.maxDepth)
      fun value draft => { draft with maxDepth := some value },
    openField "case_sensitive" [] .boolean (·.caseSensitive)
      fun value draft => { draft with caseSensitive := some value },
    openField "suppress_cycles" [] .boolean (·.suppressCycles)
      fun value draft => { draft with suppressCycles := some value },
    openField "format" [] .text (·.format)
      fun value draft => { draft with format := some value }]
  finish draft := do
    let name ← required "name" draft.name
    return {
      name
      direction := draft.direction.join
      maxDepth := draft.maxDepth.join
      caseSensitive := draft.caseSensitive.join
      suppressCycles := draft.suppressCycles.join
      format := draft.format.join }

end TraceParams

end CallTrace
