import CallTrace.Proofs.ByteOrder
import CallTrace.Proofs.FrontEnds
import CallTrace.Proofs.Ledger
import CallTrace.Proofs.Snapshot
import Mathlib.Data.Finset.Card

/-!
# What the catalogue says

Counts, the list of workspaces and the symbol of a number are asked for in queries of their own. They
all agree with what the workspaces hold, however the database has been imported into, cleared and
opened again.
-/

namespace CallTrace

/-! ## Counts and places in a table -/

namespace Table

variable {α : Type}

theorem count_eq_length (table : Table α) (workspace : String) (condition : α → Bool) :
    (table.count workspace fun row => condition row.columns) =
      ((table.entries workspace).filter fun entry => condition entry.2).length := by
  rw [count, List.countP_eq_length_filter, entries, List.filter_map, List.length_map, rowsOf,
    List.filter_filter]
  exact congrArg List.length (List.filter_congr fun row _ => Bool.and_comm _ _)

theorem map_entryOf_find? (table : Table α) (workspace : String) (id : Int64) :
    (table.find? workspace id).map entryOf =
      (table.entries workspace).find? fun entry => entry.1 == id := by
  rw [entries, List.find?_map, rowsOf, List.find?_filter, find?]
  refine congrArg _ (congrArg (List.find? · table.rows) (funext fun row => ?_))
  rw [Bool.eq_iff_iff]
  simp [Row.isAt, entryOf]

theorem mem_workspaces_iff (table : Table α) (workspace : String) :
    workspace ∈ table.workspaces ↔ table.entries workspace ≠ [] := by
  rw [workspaces, List.mem_map, entries, ne_eq, List.map_eq_nil_iff, rowsOf,
    List.filter_eq_nil_iff]
  simp

end Table

namespace Database

variable (database : Database) (workspace : String)

theorem symbols_stats :
    (database.stats workspace).symbols = (database.holding workspace).symbols.length := by
  have counted := database.symbols.count_eq_length workspace fun _ => true
  rw [List.filter_true] at counted
  rw [holding, List.length_map]
  exact counted

theorem identifiers_stats :
    (database.stats workspace).identifiers = (database.holding workspace).identifiers.length := by
  have counted := database.identifiers.count_eq_length workspace fun _ => true
  rw [List.filter_true] at counted
  rw [holding, List.length_map]
  exact counted

theorem resolvedIdentifiers_stats :
    (database.stats workspace).resolvedIdentifiers =
      (database.holding workspace).identifiers.countP fun identifier =>
        identifier.targetId.isSome := by
  have counted := database.identifiers.count_eq_length workspace fun columns =>
    columns.targetId.isSome
  rw [holding, List.countP_map, List.countP_eq_length_filter]
  exact counted

theorem symbol?_eq_find? (id : Int64) :
    database.symbol? workspace id =
      (database.holding workspace).symbols.find? fun symbol => symbol.id == id := by
  have found := database.symbols.map_entryOf_find? workspace id
  rw [holding, List.find?_map]
  change _ = Option.map Symbol.ofEntry ((database.symbols.entries workspace).find? fun entry =>
    entry.1 == id)
  rw [← found, Option.map_map]
  rfl

theorem mem_workspaces_iff :
    workspace ∈ database.workspaces ↔
      (database.holding workspace).symbols ≠ [] ∨ (database.holding workspace).identifiers ≠ [] := by
  rw [workspaces, (foldl_placeText _ List.Pairwise.nil).2, List.mem_append,
    Table.mem_workspaces_iff, Table.mem_workspaces_iff, holding]
  simp

theorem ascendByBytes_workspaces : AscendByBytes database.workspaces :=
  (foldl_placeText _ List.Pairwise.nil).1

end Database

/-! ## Calls -/

/-- The kind of every identifier stands there by its usual word. -/
def Database.HasUsualWords (database : Database) (workspace : String) : Prop :=
  ∀ entry ∈ database.identifiers.entries workspace,
    (IdentifierKind.ofText entry.2.kind).text = entry.2.kind

namespace Database

variable {database : Database}

theorem callIdentifiers_stats {workspace : String} (usual : database.HasUsualWords workspace) :
    (database.stats workspace).callIdentifiers =
      (database.holding workspace).identifiers.countP Identifier.isCall := by
  have counted := database.identifiers.count_eq_length workspace fun columns =>
    columns.kind == IdentifierKind.call.text
  rw [holding, List.countP_map, List.countP_eq_length_filter]
  refine counted.trans (congrArg List.length (List.filter_congr fun entry member => ?_))
  have word := usual entry member
  change (entry.2.kind == IdentifierKind.call.text) = (IdentifierKind.ofText entry.2.kind == .call)
  rw [Bool.eq_iff_iff, beq_iff_eq, beq_iff_eq]
  refine ⟨fun isWord => ?_, fun isKind => ?_⟩
  · rw [isWord]
    decide
  · rw [← word, isKind]

theorem HasUsualWords.writeIdentifier {other : String} (usual : database.HasUsualWords other)
    (orderly : database.IsOrderly other) (workspace : String) {identifier : Identifier}
    (named : identifier.kind.IsNamed) :
    (database.writeIdentifier workspace identifier).HasUsualWords other := by
  intro entry member
  simp only [Database.writeIdentifier, Table.entries_write orderly.identifiers] at member
  split at member
  · rcases mem_of_mem_upsert member with rfl | old
    · exact congrArg IdentifierKind.text (IdentifierKind.ofText_text named)
    · exact usual entry old
  · exact usual entry member

theorem HasUsualWords.clear {other : String} (usual : database.HasUsualWords other)
    (workspace : String) : (database.clear workspace).HasUsualWords other := by
  intro entry member
  simp only [Database.clear, Table.entries_clear] at member
  split at member
  · cases member
  · exact usual entry member

private theorem HasUsualWords.foldl_writeIdentifier {other : String}
    (usual : database.HasUsualWords other) (orderly : database.IsOrderly other)
    (workspace : String) {identifiers : List Identifier}
    (named : ∀ identifier ∈ identifiers, identifier.kind.IsNamed) :
    (identifiers.foldl (fun written identifier => written.writeIdentifier workspace identifier)
      database).HasUsualWords other := by
  induction identifiers generalizing database with
  | nil => exact usual
  | cons identifier rest ih =>
      obtain ⟨first, later⟩ := List.forall_mem_cons.mp named
      exact ih (usual.writeIdentifier orderly workspace first)
        (orderly.writeIdentifier workspace identifier) later

private theorem identifiers_foldl_writeSymbol (workspace : String) (symbols : List Symbol) :
    (symbols.foldl (fun written symbol => written.writeSymbol workspace symbol)
      database).identifiers = database.identifiers := by
  induction symbols generalizing database with
  | nil => rfl
  | cons symbol rest ih => exact ih

theorem HasUsualWords.writeDocument {other : String} (usual : database.HasUsualWords other)
    (orderly : database.IsOrderly other) (workspace : String) {document : IndexDocument}
    (named : document.HasNamedKinds) :
    (database.writeDocument workspace document).HasUsualWords other := by
  have withSymbols : (database.writeDocument workspace ⟨document.symbols, []⟩).HasUsualWords
      other := by
    intro entry member
    rw [Database.writeDocument] at member
    exact usual entry (identifiers_foldl_writeSymbol workspace document.symbols ▸ member)
  exact withSymbols.foldl_writeIdentifier (orderly.writeDocument workspace ⟨document.symbols, []⟩)
    workspace named.identifiers

end Database

/-! ## Ledgers -/

/-- Symbols and identifiers with distinct numbers, and no symbol that ends before it starts. -/
structure IndexDocument.IsSound (held : IndexDocument) : Prop where
  /-- The numbers are distinct. -/
  distinct : held.HasDistinctIds
  /-- No symbol ends before it starts. -/
  upright : ∀ symbol ∈ held.symbols, symbol.startLine ≤ symbol.endLine

section Upserts

variable {α : Type} {key : α → Int64}

theorem nodup_map_key_foldl_upsert {held : List α} (distinct : (held.map key).Nodup)
    (entries : List α) :
    ((entries.foldl (fun kept entry => upsert key entry kept) held).map key).Nodup := by
  induction entries generalizing held with
  | nil => exact distinct
  | cons entry rest ih => exact ih (nodup_map_key_upsert distinct)

theorem mem_of_mem_foldl_upsert {held entries : List α} {entry : α}
    (member : entry ∈ entries.foldl (fun kept entry => upsert key entry kept) held) :
    entry ∈ held ∨ entry ∈ entries := by
  induction entries generalizing held with
  | nil => exact .inl member
  | cons first rest ih =>
      obtain kept | later := ih member
      · obtain rfl | old := mem_of_mem_upsert kept
        · exact .inr List.mem_cons_self
        · exact .inl old
      · exact .inr (List.mem_cons_of_mem first later)

theorem mem_map_key_foldl_upsert {held entries : List α} {id : Int64} :
    id ∈ (entries.foldl (fun kept entry => upsert key entry kept) held).map key ↔
      id ∈ held.map key ∨ id ∈ entries.map key := by
  induction entries generalizing held with
  | nil => simp
  | cons first rest ih =>
      rw [List.foldl_cons, ih, map_key_upsert, List.map_cons, List.mem_cons]
      split
      · rename_i known
        refine ⟨fun member => member.imp_right .inr, ?_⟩
        rintro (old | rfl | later)
        · exact .inl old
        · exact .inl known
        · exact .inr later
      · rw [List.mem_append, List.mem_singleton, or_assoc]

theorem length_foldl_upsert_nil (entries : List α) :
    (entries.foldl (fun kept entry => upsert key entry kept) []).length =
      (entries.map key).toFinset.card := by
  have none : (([] : List α).map key).Nodup := List.nodup_nil
  have distinct := nodup_map_key_foldl_upsert none entries
  rw [← List.length_map (f := key), ← List.toFinset_card_of_nodup distinct]
  refine congrArg Finset.card (Finset.ext fun id => ?_)
  rw [List.mem_toFinset, List.mem_toFinset, mem_map_key_foldl_upsert]
  simp

end Upserts

namespace IndexDocument

theorem isSound_empty : IsSound ⟨[], []⟩ where
  distinct := ⟨List.nodup_nil, List.nodup_nil⟩
  upright := fun _ member => absurd member List.not_mem_nil

theorem IsSound.absorb {held document : IndexDocument} (sound : held.IsSound)
    (upright : document.symbols.any Symbol.isInverted = false) :
    (held.absorb document).IsSound where
  distinct := ⟨nodup_map_key_foldl_upsert sound.distinct.symbols _,
    nodup_map_key_foldl_upsert sound.distinct.identifiers _⟩
  upright symbol member := by
    obtain old | new := mem_of_mem_foldl_upsert member
    · exact sound.upright symbol old
    · have notInverted := List.any_eq_false.mp upright symbol new
      exact Int64.not_lt.mp (by simpa [Symbol.isInverted] using notInverted)

end IndexDocument

namespace Ledger

/-- The step: no change brings in anything unsound, since documents are refused that would. -/
theorem isSound_apply {ledger : Ledger} (sound : ∀ workspace, (ledger workspace).IsSound)
    (change : Change) (workspace : String) : (ledger.apply change workspace).IsSound := by
  cases change with
  | importDocument changed document replace =>
      rw [apply]
      split
      · exact sound workspace
      · rename_i upright
        rw [Function.update_apply]
        split
        · refine IndexDocument.IsSound.absorb ?_ (Bool.eq_false_iff.mpr upright)
          split
          · exact IndexDocument.isSound_empty
          · exact sound changed
        · exact sound workspace
  | clear changed =>
      rw [apply, Function.update_apply]
      split
      · exact IndexDocument.isSound_empty
      · exact sound workspace
  | reopen => exact sound workspace

theorem isSound_run {ledger : Ledger} (sound : ∀ workspace, (ledger workspace).IsSound)
    (changes : List Change) (workspace : String) : (ledger.run changes workspace).IsSound := by
  induction changes generalizing ledger with
  | nil => exact sound workspace
  | cons change rest ih => exact ih (isSound_apply sound change)

end Ledger

/-! ## Databases that agree with ledgers -/

/-- What a database says about its workspaces is what the ledger holds. -/
structure Database.IsCatalogued (database : Database) (ledger : Ledger) : Prop where
  /-- The rows of every workspace are those of the ledger. -/
  holding : ∀ workspace, database.holding workspace = ledger workspace
  /-- Numbers are distinct within a workspace, and no symbol ends before it starts. -/
  isSound : ∀ workspace, (ledger workspace).IsSound
  /-- All symbols are those of the ledger. -/
  allSymbols : ∀ workspace, database.answer workspace .allSymbols = (ledger workspace).symbols
  /-- Symbols are counted. -/
  symbols : ∀ workspace,
    (database.stats workspace).symbols = (ledger workspace).symbols.length
  /-- Identifiers are counted. -/
  identifiers : ∀ workspace,
    (database.stats workspace).identifiers = (ledger workspace).identifiers.length
  /-- Identifiers are counted that give a target, known or not. -/
  resolvedIdentifiers : ∀ workspace,
    (database.stats workspace).resolvedIdentifiers =
      (ledger workspace).identifiers.countP fun identifier => identifier.targetId.isSome
  /-- A symbol is got by its number when it is the one among all symbols that has it. -/
  symbol? : ∀ workspace id symbol, database.symbol? workspace id = some symbol ↔
    symbol ∈ database.answer workspace .allSymbols ∧ symbol.id = id
  /-- The workspaces are listed in order, none of them twice. -/
  ascend : AscendByBytes database.workspaces
  /-- A workspace is listed when it holds anything. -/
  workspaces : ∀ workspace, workspace ∈ database.workspaces ↔
    (ledger workspace).symbols ≠ [] ∨ (ledger workspace).identifiers ≠ []

theorem Database.isCatalogued_of_isOrderly {database : Database} {ledger : Ledger}
    (orderly : ∀ workspace, database.IsOrderly workspace) (holding : database.holding = ledger)
    (sound : ∀ workspace, (ledger workspace).IsSound) : database.IsCatalogued ledger := by
  subst holding
  have allSymbols (workspace : String) : database.answer workspace .allSymbols =
      (database.holding workspace).symbols := database.answer_eq_answer_holding (orderly workspace) _
  exact {
    holding _ := rfl
    isSound := sound
    allSymbols
    symbols := database.symbols_stats
    identifiers := database.identifiers_stats
    resolvedIdentifiers := database.resolvedIdentifiers_stats
    symbol? workspace id symbol := by
      rw [symbol?_eq_find?, allSymbols]
      exact Snapshot.find?_id_eq_some_iff (sound workspace).distinct.symbols
    ascend := database.ascendByBytes_workspaces
    workspaces := database.mem_workspaces_iff }

namespace Session

variable {config : Config} {session : Session} {system : FileSystem} {ledger : Ledger}
  {database : Database}

/-- A session finds one database only. -/
theorem Represents.unique {other : Database} {otherLedger : Ledger}
    (represents : session.Represents config system ledger database)
    (again : session.Represents config system otherLedger other) : database = other :=
  Option.some.inj (represents.settled.content.symm.trans again.settled.content)

theorem Represents.importDocument_eq (represents : session.Represents config system ledger database)
    (workspace : String) (document : IndexDocument) (replace : Bool) :
    (session.inWorkspace workspace).importDocument system document replace =
      match database.importDocument workspace document replace with
      | .error symbol => (.error (.inverted symbol), system)
      | .ok written => (.ok document.summary.toJson, session.store system written) := by
  have found : (session.inWorkspace workspace).database? system = some database :=
    represents.settled.content
  have writable : (session.inWorkspace workspace).isReadOnly = false := represents.writable
  cases imports : database.importDocument workspace document replace <;>
    simp only [Session.importDocument, found, imports, Option.getD_some, workspace_inWorkspace,
      store_inWorkspace, writable, Bool.false_and, Bool.false_eq_true, if_false]

theorem Represents.importDocument_keepsWords {written : Database} {after : Ledger}
    (represents : session.Represents config system ledger database)
    (usual : ∀ workspace, database.HasUsualWords workspace) {workspace : String}
    {document : IndexDocument} (named : document.HasNamedKinds) {replace : Bool}
    (next : session.Represents config
      ((session.inWorkspace workspace).importDocument system document replace).2 after written)
    (other : String) : written.HasUsualWords other := by
  rw [represents.importDocument_eq] at next
  cases inverted : document.symbols.any Symbol.isInverted with
  | true =>
      obtain ⟨symbol, refused⟩ := database.importDocument_of_inverted inverted workspace replace
      rw [refused] at next
      exact represents.unique next ▸ usual other
  | false =>
      have steps := Database.stepsTo_importDocument represents.orderly inverted workspace replace
      rw [Database.importDocument_of_upright inverted] at next
      rw [next.unique (represents.store steps)]
      cases replace with
      | true =>
          exact ((usual other).clear workspace).writeDocument
            ((represents.orderly other).clear workspace) workspace named
      | false => exact (usual other).writeDocument (represents.orderly other) workspace named

/-- The step: kinds go on to stand by their usual words when only such kinds are imported as words
name. -/
theorem Represents.change_keepsWords
    (represents : session.Represents config system ledger database)
    (usual : ∀ workspace, database.HasUsualWords workspace) {change : Change}
    (named : change.HasNamedKinds) :
    ∃ written, (session.change config system change).1.Represents config
        (session.change config system change).2 (ledger.apply change.reread) written ∧
      ∀ workspace, written.HasUsualWords workspace := by
  obtain ⟨written, next⟩ := represents.change change
  refine ⟨written, next, fun other => ?_⟩
  cases change with
  | importDocument workspace document replace =>
      exact represents.importDocument_keepsWords usual named next other
  | clear workspace =>
      have found : (session.inWorkspace workspace).database? system = some database :=
        represents.settled.content
      have writable : (session.inWorkspace workspace).isReadOnly = false := represents.writable
      have reached : (session.change config system (.clear workspace)).2 =
          session.store system (database.clear workspace) := by
        rw [Session.change, Session.clear, found, writable]
        rfl
      rw [reached] at next
      rw [next.unique (represents.store (Database.stepsTo_clear represents.orderly workspace))]
      exact (usual other).clear workspace
  | reopen =>
      obtain ⟨reached, again, opens, settled, -, identifiers⟩ :=
        represents.settled.openDatabase represents.writable
      rw [Session.change, start_of_openDatabase session.root represents.sound opens] at next
      have same : written = again :=
        Option.some.inj (next.settled.content.symm.trans settled.content)
      rw [Database.HasUsualWords, same, identifiers]
      exact usual other

/-- Along a whole run the session represents the ledger, and kinds stand by their usual words when
only such kinds are imported as words name. -/
theorem Represents.run_keepsWords
    (represents : session.Represents config system ledger database)
    (usual : ∀ workspace, database.HasUsualWords workspace) {changes : List Change}
    (named : ∀ change ∈ changes, change.HasNamedKinds) :
    ∃ written, (session.run config system changes).1.Represents config
        (session.run config system changes).2 (ledger.run (changes.map Change.reread)) written ∧
      ∀ workspace, written.HasUsualWords workspace := by
  induction changes generalizing session system ledger database with
  | nil => exact ⟨database, represents, usual⟩
  | cons change rest ih =>
      obtain ⟨first, later⟩ := List.forall_mem_cons.mp named
      obtain ⟨written, next, stillUsual⟩ := represents.change_keepsWords usual first
      exact ih next stillUsual later

theorem Represents.isCatalogued (represents : session.Represents config system ledger database)
    (sound : ∀ workspace, (ledger workspace).IsSound) : database.IsCatalogued ledger :=
  Database.isCatalogued_of_isOrderly represents.orderly represents.holding sound

/-- After an import that replaces what a workspace held, everything in the document is counted once. -/
theorem Represents.stats_of_replace
    (represents : session.Represents config system ledger database) {workspace : String}
    {document : IndexDocument} {answer : Json} {reached : FileSystem}
    (accepts : (session.inWorkspace workspace).importDocument system document true =
      (.ok answer, reached)) :
    ∃ written, session.database? reached = some written ∧
      (written.stats workspace).symbols = (document.symbols.map Symbol.id).toFinset.card ∧
      (written.stats workspace).identifiers =
        (document.identifiers.map Identifier.id).toFinset.card := by
  obtain ⟨isAccepted, written, next⟩ := represents.importDocument workspace document true
  rw [accepts] at isAccepted next
  have upright := isAccepted.mp ⟨answer, rfl⟩
  have rereadUpright : document.reread.symbols.any Symbol.isInverted = false := by
    rw [IndexDocument.any_isInverted_reread, upright]
  have held : written.holding workspace = (⟨[], []⟩ : IndexDocument).absorb document.reread := by
    rw [next.holding, Ledger.apply_importDocument rereadUpright, Function.update_self, if_pos rfl]
  have symbols : document.reread.symbols.map Symbol.id = document.symbols.map Symbol.id :=
    List.map_map
  have identifiers : document.reread.identifiers.map Identifier.id =
      document.identifiers.map Identifier.id := List.map_map
  refine ⟨written, next.settled.content, ?_, ?_⟩
  · rw [Database.symbols_stats, held, ← symbols]
    exact length_foldl_upsert_nil _
  · rw [Database.identifiers_stats, held, ← identifiers]
    exact length_foldl_upsert_nil _

/-- Whatever is done to a database that was opened without rows, what it says about its workspaces is
what a ledger holds to which the same has been done, with every kind as it is read back. Calls are
counted too, when only such kinds are imported as words name, as all documents have that are read
from texts (`IndexDocument.hasNamedKinds_of_readText`). After one more import that replaces what a
workspace held, everything in the document is counted once. -/
theorem isCatalogued_run {before opened : FileSystem} {root path : Path}
    (starts : start config before root path = (.ok session, opened))
    (writable : session.isReadOnly = false)
    (content : session.database? opened = some database)
    (noSymbols : database.symbols.rows = []) (noIdentifiers : database.identifiers.rows = [])
    (changes : List Change) :
    let final := session.run config opened changes
    let ledger := Ledger.empty.run (changes.map Change.reread)
    ∃ reached, final.1.database? final.2 = some reached ∧ reached.IsCatalogued ledger ∧
      ((∀ change ∈ changes, change.HasNamedKinds) → ∀ workspace,
        (reached.stats workspace).callIdentifiers =
          (ledger workspace).identifiers.countP Identifier.isCall) ∧
      ∀ workspace document answer after,
        (final.1.inWorkspace workspace).importDocument final.2 document true =
          (.ok answer, after) →
        ∃ written, final.1.database? after = some written ∧
          (written.stats workspace).symbols = (document.symbols.map Symbol.id).toFinset.card ∧
          (written.stats workspace).identifiers =
            (document.identifiers.map Identifier.id).toFinset.card := by
  have initial := represents_empty starts writable content noSymbols noIdentifiers
  obtain ⟨reached, final⟩ := initial.run changes
  have sound := Ledger.isSound_run (fun _ => IndexDocument.isSound_empty)
    (changes.map Change.reread)
  refine ⟨reached, final.settled.content, final.isCatalogued sound, fun named workspace => ?_,
    fun workspace document answer after accepts => final.stats_of_replace accepts⟩
  have usual (workspace : String) : database.HasUsualWords workspace := by
    rw [Database.HasUsualWords, Table.entries_of_isEmpty noIdentifiers]
    exact fun _ member => absurd member List.not_mem_nil
  obtain ⟨written, again, stillUsual⟩ := initial.run_keepsWords usual named
  rw [final.unique again, Database.callIdentifiers_stats (stillUsual workspace), again.holding]

/-- A document that gives one number twice. -/
def repeatingDocument : IndexDocument where
  symbols := [
    ⟨1, "run", .ofText "fn", "a.rs", 1, 5⟩,
    ⟨2, "stop", .ofText "fn", "a.rs", 6, 9⟩,
    ⟨1, "Run", .ofText "method", "a.rs", 2, 4⟩]
  identifiers := [⟨7, "stop", .ofText "CALL", "a.rs", none, some 1, some 99⟩]

theorem isCatalogued_run_interleaved :
    ∃ session opened database,
      start default (.empty ⟨"/"⟩) ⟨"/"⟩ SharedMemory.address = (.ok session, opened) ∧
        session.isReadOnly = false ∧ session.database? opened = some database ∧
        database.symbols.rows = [] ∧ database.identifiers.rows = [] ∧
        let final := session.run default opened interleavedChanges
        let ledger := Ledger.empty.run (interleavedChanges.map Change.reread)
        ∃ reached, final.1.database? final.2 = some reached ∧ reached.IsCatalogued ledger ∧
          (∀ workspace, (reached.stats workspace).callIdentifiers =
            (ledger workspace).identifiers.countP Identifier.isCall) ∧
          ∃ answer after written,
            (final.1.inWorkspace "/").importDocument final.2 repeatingDocument true =
              (.ok answer, after) ∧
            final.1.database? after = some written ∧ (written.stats "/").symbols = 2 := by
  have named : ∀ change ∈ interleavedChanges, change.HasNamedKinds := by
    simp [interleavedChanges, Change.HasNamedKinds, IndexDocument.hasNamedKinds_iff]
  have absent : (FileSystem.empty ⟨"/"⟩).memory[SharedMemory.name]? = none := by
    simp [FileSystem.empty]
  obtain ⟨session, starts, isMemory, writable, -⟩ := SharedMemory.exists_start absent
  have content : session.database? ((FileSystem.empty ⟨"/"⟩).keep SharedMemory.name
      SharedMemory.made) = some SharedMemory.made := by
    rw [Session.database?, isMemory]
    exact Std.HashMap.getElem?_insert_self
  obtain ⟨_, final⟩ := (represents_empty starts writable content rfl rfl).run interleavedChanges
  obtain ⟨reached, found, catalogued, calls, replaces⟩ :=
    isCatalogued_run starts writable content rfl rfl interleavedChanges
  obtain ⟨answer, accepts⟩ := (final.importDocument "/" repeatingDocument true).1.mpr (by decide)
  obtain ⟨written, isThere, symbols, -⟩ :=
    replaces "/" repeatingDocument answer _ (Prod.ext accepts rfl)
  exact ⟨session, _, _, starts, writable, content, rfl, rfl, reached, found, catalogued,
    calls named, answer, _, written, Prod.ext accepts rfl, isThere, symbols.trans (by decide)⟩

end Session

end CallTrace
