import CallTrace.Database.Table
import CallTrace.Index.Format
import CallTrace.Inquiry.Basic

/-!
# Databases

A database holds the symbols and identifiers of any number of workspaces, with kinds as words and
with the name of every identifier in lower case beside the name itself. An index document is
imported as a whole or not at all: it is refused when one of its symbols ends before it starts.
-/

namespace CallTrace

/-- The columns of a stored symbol, apart from its number. -/
structure SymbolColumns where
  /-- Declared name. -/
  name : String
  /-- Word for what is declared. -/
  kind : String
  /-- File of the declaration. -/
  filePath : String
  /-- First line. -/
  startLine : Int64
  /-- Last line. -/
  endLine : Int64
deriving DecidableEq, Repr

/-- The columns of a stored identifier, apart from its number. -/
structure IdentifierColumns where
  /-- The name. -/
  name : String
  /-- The name in lower case. -/
  foldedName : String
  /-- Word for how the name is used. -/
  kind : String
  /-- File of the occurrence. -/
  filePath : String
  /-- Line of the occurrence. -/
  line : Option Int64
  /-- Number of the symbol around it. -/
  containerId : Option Int64
  /-- Number of the symbol that it is known to refer to. -/
  targetId : Option Int64
deriving DecidableEq, Repr

/-- The columns in which a symbol is stored. -/
def Symbol.columns (symbol : Symbol) : SymbolColumns where
  name := symbol.name
  kind := symbol.kind.text
  filePath := symbol.filePath
  startLine := symbol.startLine
  endLine := symbol.endLine

/-- The symbol that is stored in a row. -/
def Symbol.ofRow (row : Row SymbolColumns) : Symbol where
  id := row.id
  name := row.columns.name
  kind := .ofText row.columns.kind
  filePath := row.columns.filePath
  startLine := row.columns.startLine
  endLine := row.columns.endLine

/-- The columns in which an identifier is stored. -/
def Identifier.columns (identifier : Identifier) : IdentifierColumns where
  name := identifier.name
  foldedName := Text.lowercase identifier.name
  kind := identifier.kind.text
  filePath := identifier.filePath
  line := identifier.line
  containerId := identifier.containerId
  targetId := identifier.targetId

/-- The identifier that is stored in a row. -/
def Identifier.ofRow (row : Row IdentifierColumns) : Identifier where
  id := row.id
  name := row.columns.name
  kind := .ofText row.columns.kind
  filePath := row.columns.filePath
  line := row.columns.line
  containerId := row.columns.containerId
  targetId := row.columns.targetId

/-- A stored index of several workspaces. -/
structure Database where
  /-- The version of the schema, as it is written. -/
  schemaVersion : Option String
  /-- The symbols. -/
  symbols : Table SymbolColumns
  /-- The identifiers. -/
  identifiers : Table IdentifierColumns
  /-- Whether changes are logged before they reach the file. -/
  logged : Bool
deriving DecidableEq, Repr

/-- How much a workspace holds. -/
structure WorkspaceStats where
  /-- The workspace. -/
  workspace : String
  /-- Number of symbols. -/
  symbols : Nat
  /-- Number of identifiers. -/
  identifiers : Nat
  /-- Number of identifiers that are calls. -/
  callIdentifiers : Nat
  /-- Number of identifiers that give the number of their target. -/
  resolvedIdentifiers : Nat
deriving DecidableEq, Repr

/-- The written form of the counts of a workspace. -/
def WorkspaceStats.toJson (stats : WorkspaceStats) : Json :=
  Json.ofFields [
    ("workspace", .text stats.workspace),
    ("symbols", Json.ofNat stats.symbols),
    ("identifiers", Json.ofNat stats.identifiers),
    ("call_identifiers", Json.ofNat stats.callIdentifiers),
    ("resolved_identifiers", Json.ofNat stats.resolvedIdentifiers)]

/-- How much was imported. -/
structure ImportSummary where
  /-- Number of symbols in the document. -/
  symbols : Nat
  /-- Number of identifiers in the document. -/
  identifiers : Nat
deriving DecidableEq, Repr

/-- The written form of an import summary. -/
def ImportSummary.toJson (summary : ImportSummary) : Json :=
  Json.ofFields [
    ("symbols", Json.ofNat summary.symbols),
    ("identifiers", Json.ofNat summary.identifiers)]

/-- The numbers of symbols and identifiers of a document. -/
def IndexDocument.summary (document : IndexDocument) : ImportSummary :=
  ⟨document.symbols.length, document.identifiers.length⟩

/-- Whether a document holds nothing. -/
def IndexDocument.isEmpty (document : IndexDocument) : Bool :=
  document.symbols.isEmpty && document.identifiers.isEmpty

/-- The first symbol of a document that ends before it starts. -/
def IndexDocument.inverted? (document : IndexDocument) : Option Symbol :=
  document.symbols.find? Symbol.isInverted

/-- Place a text into texts that are in increasing order, once. -/
def placeText (text : String) : List String → List String
  | [] => [text]
  | first :: rest =>
    if text < first then
      text :: first :: rest
    else if text = first then
      first :: rest
    else
      first :: placeText text rest

namespace Database

/-- The database that has just been created. -/
def fresh : Database where
  schemaVersion := none
  symbols := .empty
  identifiers := .empty
  logged := false

/-- Remove what a workspace holds. -/
def clear (database : Database) (workspace : String) : Database :=
  { database with
    symbols := database.symbols.clear workspace
    identifiers := database.identifiers.clear workspace }

/-- Write one symbol of a workspace. -/
def writeSymbol (database : Database) (workspace : String) (symbol : Symbol) : Database :=
  { database with symbols := database.symbols.write workspace symbol.id symbol.columns }

/-- Write one identifier of a workspace. -/
def writeIdentifier (database : Database) (workspace : String) (identifier : Identifier) :
    Database :=
  { database with
    identifiers := database.identifiers.write workspace identifier.id identifier.columns }

/-- Write the symbols and then the identifiers of a document. -/
def writeDocument (database : Database) (workspace : String) (document : IndexDocument) :
    Database :=
  let withSymbols :=
    document.symbols.foldl (fun written symbol => written.writeSymbol workspace symbol) database
  document.identifiers.foldl
    (fun written identifier => written.writeIdentifier workspace identifier) withSymbols

/-- Import a document into a workspace, whose former content is replaced or kept. A symbol that ends
before it starts is the reason for a refusal. -/
def importDocument (database : Database) (workspace : String) (document : IndexDocument)
    (replace : Bool) : Except Symbol Database :=
  match document.inverted? with
  | some symbol => .error symbol
  | none =>
    let base := if replace then database.clear workspace else database
    .ok (base.writeDocument workspace document)

/-- What the database answers to a query about a workspace. -/
def answer (database : Database) (workspace : String) : (query : Query) → query.Answer
  | .allSymbols => (database.symbols.select workspace fun _ => true).map Symbol.ofRow
  | .identifiersNamed name caseSensitive =>
    let condition : Row IdentifierColumns → Bool :=
      if caseSensitive then
        fun row => row.columns.name == name
      else
        let folded := Text.lowercase name
        fun row => row.columns.foldedName == folded
    (database.identifiers.select workspace condition).map Identifier.ofRow
  | .identifiersWithin containerId =>
    (database.identifiers.select workspace fun row =>
      row.columns.containerId == some containerId).map Identifier.ofRow

/-- The symbol of a number within a workspace. -/
def symbol? (database : Database) (workspace : String) (id : Int64) : Option Symbol :=
  (database.symbols.find? workspace id).map Symbol.ofRow

/-- How much a workspace holds. -/
def stats (database : Database) (workspace : String) : WorkspaceStats where
  workspace
  symbols := database.symbols.count workspace fun _ => true
  identifiers := database.identifiers.count workspace fun _ => true
  callIdentifiers :=
    database.identifiers.count workspace fun row => row.columns.kind == IdentifierKind.call.text
  resolvedIdentifiers :=
    database.identifiers.count workspace fun row => row.columns.targetId.isSome

/-- The workspaces that hold anything, in increasing order. -/
def workspaces (database : Database) : List String :=
  (database.symbols.workspaces ++ database.identifiers.workspaces).foldl
    (fun placed workspace => placeText workspace placed) []

end Database

end CallTrace
