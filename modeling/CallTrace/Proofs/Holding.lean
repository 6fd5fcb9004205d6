import CallTrace.Database.Basic
import CallTrace.Proofs.Table
import CallTrace.Store.Memory

/-!
# What a workspace holds

A workspace of a database holds a list of symbols and a list of identifiers, and the database
answers every query about the workspace as these two lists do. Writing a document upserts both
lists, with every kind as it is read back from its word. A kind that a word names is read back as
it was.
-/

namespace CallTrace

/-! ## Kinds that are written and read back -/

namespace SymbolKind

/-- Some word names the kind. -/
def IsNamed (kind : SymbolKind) : Prop :=
  ∃ word, kind = ofText word

@[simp]
theorem isNamed_ofText (word : String) : (ofText word).IsNamed :=
  ⟨word, rfl⟩

theorem isOther_of_ofLowercase? {word : String} {kind : SymbolKind}
    (named : ofLowercase? word = some kind) : kind.isOther = false := by
  rw [ofLowercase?.eq_def] at named
  split at named <;> cases named <;> rfl

private theorem ofText_text_of_isOther {kind : SymbolKind} (known : kind.isOther = false) :
    ofText kind.text = kind := by
  cases kind with
  | other word => simp [isOther] at known
  | _ => decide

theorem ofText_text {kind : SymbolKind} (named : kind.IsNamed) : ofText kind.text = kind := by
  obtain ⟨word, rfl⟩ := named
  cases known : ofLowercase? (Text.lowercase word) with
  | none => simp [ofText, known, text]
  | some kind =>
      have reread := ofText_text_of_isOther (isOther_of_ofLowercase? known)
      simpa [ofText, known] using reread

end SymbolKind

namespace IdentifierKind

/-- Some word names the kind. -/
def IsNamed (kind : IdentifierKind) : Prop :=
  ∃ word, kind = ofText word

@[simp]
theorem isNamed_ofText (word : String) : (ofText word).IsNamed :=
  ⟨word, rfl⟩

theorem isOther_of_ofLowercase? {word : String} {kind : IdentifierKind}
    (named : ofLowercase? word = some kind) : kind.isOther = false := by
  rw [ofLowercase?.eq_def] at named
  split at named <;> cases named <;> rfl

private theorem ofText_text_of_isOther {kind : IdentifierKind} (known : kind.isOther = false) :
    ofText kind.text = kind := by
  cases kind with
  | other word => simp [isOther] at known
  | _ => decide

theorem ofText_text {kind : IdentifierKind} (named : kind.IsNamed) :
    ofText kind.text = kind := by
  obtain ⟨word, rfl⟩ := named
  cases known : ofLowercase? (Text.lowercase word) with
  | none => simp [ofText, known, text]
  | some kind =>
      have reread := ofText_text_of_isOther (isOther_of_ofLowercase? known)
      simpa [ofText, known] using reread

end IdentifierKind

/-- The symbol with its kind as it is read back. -/
def Symbol.reread (symbol : Symbol) : Symbol :=
  { symbol with kind := .ofText symbol.kind.text }

/-- The identifier with its kind as it is read back. -/
def Identifier.reread (identifier : Identifier) : Identifier :=
  { identifier with kind := .ofText identifier.kind.text }

namespace IndexDocument

/-- The document with all kinds as they are read back. -/
def reread (document : IndexDocument) : IndexDocument :=
  ⟨document.symbols.map Symbol.reread, document.identifiers.map Identifier.reread⟩

/-- Every kind in the document is one that a word names. -/
structure HasNamedKinds (document : IndexDocument) : Prop where
  /-- The kinds of the symbols. -/
  symbols : ∀ symbol ∈ document.symbols, symbol.kind.IsNamed
  /-- The kinds of the identifiers. -/
  identifiers : ∀ identifier ∈ document.identifiers, identifier.kind.IsNamed

theorem hasNamedKinds_iff (document : IndexDocument) :
    document.HasNamedKinds ↔
      (∀ symbol ∈ document.symbols, symbol.kind.IsNamed) ∧
        ∀ identifier ∈ document.identifiers, identifier.kind.IsNamed :=
  ⟨fun named => ⟨named.symbols, named.identifiers⟩, fun named => ⟨named.1, named.2⟩⟩

theorem reread_eq {document : IndexDocument} (named : document.HasNamedKinds) :
    document.reread = document := by
  have symbols : document.symbols.map Symbol.reread = document.symbols := by
    conv_rhs => rw [← List.map_id document.symbols]
    exact List.map_congr_left fun symbol member => by
      simp [Symbol.reread, SymbolKind.ofText_text (named.symbols symbol member)]
  have identifiers : document.identifiers.map Identifier.reread = document.identifiers := by
    conv_rhs => rw [← List.map_id document.identifiers]
    exact List.map_congr_left fun identifier member => by
      simp [Identifier.reread, IdentifierKind.ofText_text (named.identifiers identifier member)]
  rw [reread, symbols, identifiers]

theorem any_isInverted_reread (document : IndexDocument) :
    document.reread.symbols.any Symbol.isInverted = document.symbols.any Symbol.isInverted := by
  rw [reread, List.any_map]
  rfl

/-- Put symbols and identifiers into a workspace, in their order: a known number keeps its place and
a new one goes to the end. -/
def absorb (held document : IndexDocument) : IndexDocument where
  symbols := document.symbols.foldl (fun kept symbol => upsert Symbol.id symbol kept) held.symbols
  identifiers :=
    document.identifiers.foldl (fun kept identifier => upsert Identifier.id identifier kept)
      held.identifiers

/-- No two symbols of the document have the same number, and no two identifiers. -/
structure HasDistinctIds (document : IndexDocument) : Prop where
  /-- The numbers of the symbols. -/
  symbols : (document.symbols.map Symbol.id).Nodup
  /-- The numbers of the identifiers. -/
  identifiers : (document.identifiers.map Identifier.id).Nodup

/-- Of a document with distinct numbers an empty workspace holds exactly that document. -/
theorem absorb_empty {document : IndexDocument} (distinct : document.HasDistinctIds) :
    (⟨[], []⟩ : IndexDocument).absorb document = document := by
  rw [absorb, foldl_upsert_of_nodup _ _ distinct.symbols,
    foldl_upsert_of_nodup _ _ distinct.identifiers]
  rfl

/-- A store that never fails holds the document when it answers every query from its lists. -/
def IsHeldBy {ε : Type} (document : IndexDocument)
    (answer : (query : Query) → Except ε query.Answer) : Prop :=
  ∀ query, answer query = .ok (document.answer query)

end IndexDocument

/-! ## Databases -/

/-- The symbol of a number and columns. -/
def Symbol.ofEntry (entry : Int64 × SymbolColumns) : Symbol :=
  .ofRow { seq := 0, workspace := "", id := entry.1, columns := entry.2 }

theorem Symbol.map_ofEntry_upsert (entry : Int64 × SymbolColumns)
    (entries : List (Int64 × SymbolColumns)) :
    (upsert Prod.fst entry entries).map ofEntry =
      upsert Symbol.id (ofEntry entry) (entries.map ofEntry) :=
  map_upsert Symbol.id ofEntry (fun _ => rfl) entry entries

/-- The identifier of a number and columns. -/
def Identifier.ofEntry (entry : Int64 × IdentifierColumns) : Identifier :=
  .ofRow { seq := 0, workspace := "", id := entry.1, columns := entry.2 }

theorem Identifier.map_ofEntry_upsert (entry : Int64 × IdentifierColumns)
    (entries : List (Int64 × IdentifierColumns)) :
    (upsert Prod.fst entry entries).map ofEntry =
      upsert Identifier.id (ofEntry entry) (entries.map ofEntry) :=
  map_upsert Identifier.id ofEntry (fun _ => rfl) entry entries

namespace Database

/-- What a workspace holds, in the order in which it is stored. -/
def holding (database : Database) (workspace : String) : IndexDocument where
  symbols := (database.symbols.entries workspace).map Symbol.ofEntry
  identifiers := (database.identifiers.entries workspace).map Identifier.ofEntry

/-- Seen from a workspace both tables are orderly, and every name stands beside its lower case. -/
structure IsOrderly (database : Database) (workspace : String) : Prop where
  /-- The table of symbols is orderly. -/
  symbols : database.symbols.IsOrderly workspace
  /-- The table of identifiers is orderly. -/
  identifiers : database.identifiers.IsOrderly workspace
  /-- Names stand beside their lower cases. -/
  folded : ∀ entry ∈ database.identifiers.entries workspace,
    entry.2.foldedName = Text.lowercase entry.2.name

theorem map_ofRow_select_symbols {table : Table SymbolColumns} {workspace : String}
    (orderly : table.IsOrderly workspace) :
    (table.select workspace fun _ => true).map Symbol.ofRow =
      (table.entries workspace).map Symbol.ofEntry := by
  have selected := Table.map_entryOf_select orderly fun _ => true
  rw [List.filter_true] at selected
  rw [← selected, List.map_map]
  rfl

theorem map_ofRow_select_identifiers {table : Table IdentifierColumns}
    {workspace : String} (orderly : table.IsOrderly workspace)
    (condition : IdentifierColumns → Bool) (choice : Identifier → Bool)
    (agree : ∀ entry ∈ table.entries workspace,
      condition entry.2 = choice (Identifier.ofEntry entry)) :
    (table.select workspace fun row => condition row.columns).map Identifier.ofRow =
      ((table.entries workspace).map Identifier.ofEntry).filter choice := by
  have selected := Table.map_entryOf_select orderly condition
  have agreeing : (table.entries workspace).filter (choice ∘ Identifier.ofEntry) =
      (table.entries workspace).filter fun entry => condition entry.2 :=
    List.filter_congr fun entry member => (agree entry member).symm
  rw [List.filter_map, agreeing, ← selected, List.map_map]
  rfl

/-- A database answers as what the workspace holds does. -/
theorem answer_eq_answer_holding {database : Database} {workspace : String}
    (orderly : database.IsOrderly workspace) (query : Query) :
    database.answer workspace query = (database.holding workspace).answer query := by
  cases query with
  | allSymbols => exact map_ofRow_select_symbols orderly.symbols
  | identifiersNamed name caseSensitive =>
      cases caseSensitive with
      | true =>
          exact map_ofRow_select_identifiers orderly.identifiers
            (fun columns => columns.name == name)
            (fun identifier => identifier.name == name) fun _ _ => rfl
      | false =>
          exact map_ofRow_select_identifiers orderly.identifiers
            (fun columns => columns.foldedName == Text.lowercase name)
            (fun identifier => Text.lowercase identifier.name == Text.lowercase name)
            fun entry member => by rw [orderly.folded entry member]; rfl
  | identifiersWithin containerId =>
      exact map_ofRow_select_identifiers orderly.identifiers
        (fun columns => columns.containerId == some containerId)
        (fun identifier => identifier.containerId == some containerId) fun _ _ => rfl

theorem isOrderly_of_isEmpty {database : Database} (noSymbols : database.symbols.rows = [])
    (noIdentifiers : database.identifiers.rows = []) (workspace : String) :
    database.IsOrderly workspace where
  symbols := Table.isOrderly_of_isEmpty noSymbols workspace
  identifiers := Table.isOrderly_of_isEmpty noIdentifiers workspace
  folded := by
    rw [Table.entries_of_isEmpty noIdentifiers]
    simp

theorem holding_of_isEmpty {database : Database} (noSymbols : database.symbols.rows = [])
    (noIdentifiers : database.identifiers.rows = []) (workspace : String) :
    database.holding workspace = ⟨[], []⟩ := by
  rw [holding, Table.entries_of_isEmpty noSymbols, Table.entries_of_isEmpty noIdentifiers]
  rfl

/-! ## Writing -/

theorem IsOrderly.writeSymbol {database : Database} {other : String}
    (orderly : database.IsOrderly other) (workspace : String) (symbol : Symbol) :
    (database.writeSymbol workspace symbol).IsOrderly other where
  symbols := orderly.symbols.write workspace symbol.id symbol.columns
  identifiers := orderly.identifiers
  folded := orderly.folded

/-- A symbol is upserted as it is read back, in its own workspace. -/
theorem holding_writeSymbol {database : Database} {other : String}
    (orderly : database.IsOrderly other) (workspace : String) (symbol : Symbol) :
    (database.writeSymbol workspace symbol).holding other =
      if other = workspace then
        { database.holding other with
          symbols := upsert Symbol.id symbol.reread (database.holding other).symbols }
      else database.holding other := by
  simp only [holding, writeSymbol, Table.entries_write orderly.symbols]
  split
  · rw [Symbol.map_ofEntry_upsert]
    rfl
  · rfl

theorem IsOrderly.writeIdentifier {database : Database} {other : String}
    (orderly : database.IsOrderly other) (workspace : String) (identifier : Identifier) :
    (database.writeIdentifier workspace identifier).IsOrderly other where
  symbols := orderly.symbols
  identifiers := orderly.identifiers.write workspace identifier.id identifier.columns
  folded := by
    intro entry member
    simp only [Database.writeIdentifier, Table.entries_write orderly.identifiers] at member
    split at member
    · rcases mem_of_mem_upsert member with rfl | old
      · rfl
      · exact orderly.folded entry old
    · exact orderly.folded entry member

theorem holding_writeIdentifier {database : Database} {other : String}
    (orderly : database.IsOrderly other) (workspace : String) (identifier : Identifier) :
    (database.writeIdentifier workspace identifier).holding other =
      if other = workspace then
        { database.holding other with
          identifiers :=
            upsert Identifier.id identifier.reread (database.holding other).identifiers }
      else database.holding other := by
  simp only [holding, writeIdentifier, Table.entries_write orderly.identifiers]
  split
  · rw [Identifier.map_ofEntry_upsert]
    rfl
  · rfl

private theorem foldl_writeSymbol {database : Database} {other : String}
    (orderly : database.IsOrderly other) (workspace : String) (symbols : List Symbol) :
    let written :=
      symbols.foldl (fun written symbol => written.writeSymbol workspace symbol) database
    written.IsOrderly other ∧
      written.holding other =
        if other = workspace then
          (database.holding other).absorb ⟨symbols.map Symbol.reread, []⟩
        else database.holding other := by
  induction symbols generalizing database with
  | nil => exact ⟨orderly, by split <;> rfl⟩
  | cons symbol rest ih =>
      obtain ⟨laterOrderly, later⟩ := ih (orderly.writeSymbol workspace symbol)
      refine ⟨laterOrderly, ?_⟩
      rw [List.foldl_cons, later, holding_writeSymbol orderly]
      split <;> rfl

private theorem foldl_writeIdentifier {database : Database} {other : String}
    (orderly : database.IsOrderly other) (workspace : String) (identifiers : List Identifier) :
    let written :=
      identifiers.foldl (fun written identifier => written.writeIdentifier workspace identifier)
        database
    written.IsOrderly other ∧
      written.holding other =
        if other = workspace then
          (database.holding other).absorb ⟨[], identifiers.map Identifier.reread⟩
        else database.holding other := by
  induction identifiers generalizing database with
  | nil => exact ⟨orderly, by split <;> rfl⟩
  | cons identifier rest ih =>
      obtain ⟨laterOrderly, later⟩ := ih (orderly.writeIdentifier workspace identifier)
      refine ⟨laterOrderly, ?_⟩
      rw [List.foldl_cons, later, holding_writeIdentifier orderly]
      split <;> rfl

theorem IsOrderly.writeDocument {database : Database} {other : String}
    (orderly : database.IsOrderly other) (workspace : String) (document : IndexDocument) :
    (database.writeDocument workspace document).IsOrderly other :=
  (foldl_writeIdentifier (foldl_writeSymbol orderly workspace document.symbols).1 workspace
    document.identifiers).1

/-- A workspace absorbs the document that is written into it, and no other workspace changes. -/
theorem holding_writeDocument {database : Database} {other : String}
    (orderly : database.IsOrderly other) (workspace : String) (document : IndexDocument) :
    (database.writeDocument workspace document).holding other =
      if other = workspace then (database.holding other).absorb document.reread
      else database.holding other := by
  obtain ⟨symbolsOrderly, symbols⟩ := foldl_writeSymbol orderly workspace document.symbols
  obtain ⟨-, identifiers⟩ :=
    foldl_writeIdentifier symbolsOrderly workspace document.identifiers
  rw [writeDocument, identifiers, symbols]
  split <;> rfl

/-! ## Clearing -/

theorem isOrderly_clear (database : Database) (workspace : String) :
    (database.clear workspace).IsOrderly workspace where
  symbols := database.symbols.isOrderly_clear workspace
  identifiers := database.identifiers.isOrderly_clear workspace
  folded := by simp [clear, Table.entries_clear]

theorem IsOrderly.clear {database : Database} {other : String} (orderly : database.IsOrderly other)
    (workspace : String) : (database.clear workspace).IsOrderly other where
  symbols := orderly.symbols.clear workspace
  identifiers := orderly.identifiers.clear workspace
  folded := by
    intro entry member
    simp only [Database.clear, Table.entries_clear] at member
    split at member
    · cases member
    · exact orderly.folded entry member

/-- Nothing is left of a cleared workspace, and all of every other one. -/
theorem holding_clear (database : Database) (workspace other : String) :
    (database.clear workspace).holding other =
      if other = workspace then ⟨[], []⟩ else database.holding other := by
  simp only [holding, clear, Table.entries_clear]
  split <;> rfl

/-! ## Importing -/

theorem importDocument_of_upright {document : IndexDocument}
    (upright : document.symbols.any Symbol.isInverted = false) (database : Database)
    (workspace : String) (replace : Bool) :
    database.importDocument workspace document replace =
      .ok ((if replace then database.clear workspace else database).writeDocument workspace
        document) := by
  have accepted : document.inverted? = none := by
    simpa [IndexDocument.inverted?] using upright
  rw [importDocument, accepted]

theorem importDocument_of_inverted {document : IndexDocument}
    (inverted : document.symbols.any Symbol.isInverted = true) (database : Database)
    (workspace : String) (replace : Bool) :
    ∃ symbol, database.importDocument workspace document replace = .error symbol := by
  have refused : document.inverted?.isSome = true := by
    rwa [IndexDocument.inverted?, List.isSome_find?]
  obtain ⟨symbol, found⟩ := Option.isSome_iff_exists.mp refused
  exact ⟨symbol, by rw [importDocument, found]⟩

end Database

end CallTrace
