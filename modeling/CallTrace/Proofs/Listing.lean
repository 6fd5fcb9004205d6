import CallTrace.Proofs.Catalogue
import Mathlib.Data.List.Sort

/-!
# What a workspace lists

However the rows of a table are stored, a workspace lists its entries in the order of their sequence
numbers. Writing overwrites the entries of a known number where they are and puts a new one at the
end, so what is listed depends on what was listed before and on nothing else: neither on the
sequence numbers themselves nor on any other workspace. Databases whose workspaces list the same
cannot be told apart by anything that is asked of them.
-/

namespace CallTrace

/-! ## Rows in order -/

/-- The row is not behind the other one. -/
def Row.Precedes {α : Type} (left right : Row α) : Prop :=
  left.seq ≤ right.seq

instance {α : Type} : DecidableRel (Row.Precedes (α := α)) :=
  fun left right => Nat.decLe left.seq right.seq

section Sorting

variable {α : Type}

/-- Rows sorted as they are read. -/
def sortRows (rows : List (Row α)) : List (Row α) :=
  rows.mergeSort fun left right => left.seq ≤ right.seq

theorem orderedInsert_of_forall_precedes {row : Row α} {rows : List (Row α)}
    (precedes : ∀ other ∈ rows, row.Precedes other) :
    rows.orderedInsert Row.Precedes row = row :: rows := by
  cases rows with
  | nil => rfl
  | cons head rest => exact List.orderedInsert_cons_of_le _ _ (precedes head List.mem_cons_self)

theorem orderedInsert_append {row : Row α} {first second : List (Row α)}
    (behind : ∀ other ∈ first, ¬row.Precedes other) :
    (first ++ second).orderedInsert Row.Precedes row =
      first ++ second.orderedInsert Row.Precedes row := by
  induction first with
  | nil => rfl
  | cons head rest ih =>
      obtain ⟨before, later⟩ := List.forall_mem_cons.mp behind
      rw [List.cons_append, List.orderedInsert_of_not_le _ _ before, ih later, List.cons_append]

/-- Rows with one sequence number keep their order: the rows are sorted by inserting them one after
another. -/
theorem sortRows_eq_insertionSort (rows : List (Row α)) :
    sortRows rows = rows.insertionSort Row.Precedes := by
  induction rows with
  | nil => rw [sortRows, List.mergeSort_nil, List.insertionSort_nil]
  | cons row rest ih =>
      have transitive (a b c : Row α) (first : decide (a.seq ≤ b.seq) = true)
          (second : decide (b.seq ≤ c.seq) = true) : decide (a.seq ≤ c.seq) = true := by
        rw [decide_eq_true_eq] at first second ⊢
        exact first.trans second
      have total (a b : Row α) : (decide (a.seq ≤ b.seq) || decide (b.seq ≤ a.seq)) = true := by
        simpa using Nat.le_total a.seq b.seq
      obtain ⟨first, second, all, others, behind⟩ := List.mergeSort_cons transitive total row rest
      have sorted := List.pairwise_mergeSort transitive total (row :: rest)
      rw [all] at sorted
      have before : ∀ other ∈ second, row.Precedes other := fun other member =>
        of_decide_eq_true ((List.pairwise_cons.mp (List.pairwise_append.mp sorted).2.1).1 other
          member)
      have notBefore : ∀ other ∈ first, ¬row.Precedes other := fun other member => by
        simpa [Row.Precedes] using behind other member
      rw [List.insertionSort_cons, ← ih, sortRows, sortRows, all, others,
        orderedInsert_append notBefore, orderedInsert_of_forall_precedes before]

theorem sortRows_concat {rows : List (Row α)} {last : Row α}
    (behind : ∀ row ∈ rows, row.Precedes last) :
    sortRows (rows ++ [last]) = sortRows rows ++ [last] := by
  rw [sortRows_eq_insertionSort, sortRows_eq_insertionSort]
  induction rows with
  | nil => rfl
  | cons row rest ih =>
      obtain ⟨precedes, later⟩ := List.forall_mem_cons.mp behind
      rw [List.cons_append, List.insertionSort_cons, ih later, List.insertionSort_cons]
      generalize rest.insertionSort Row.Precedes = sorted
      induction sorted with
      | nil => exact List.orderedInsert_cons_of_le _ _ precedes
      | cons head more hypothesis =>
          by_cases before : row.Precedes head
          · rw [List.cons_append, List.orderedInsert_cons_of_le _ _ before,
              List.orderedInsert_cons_of_le _ _ before]
            rfl
          · rw [List.cons_append, List.orderedInsert_of_not_le _ _ before, hypothesis,
              List.orderedInsert_of_not_le _ _ before]
            rfl

theorem sortRows_map {change : Row α → Row α} (keeps : ∀ row, (change row).seq = row.seq)
    (rows : List (Row α)) : sortRows (rows.map change) = (sortRows rows).map change := by
  refine (List.map_mergeSort fun left _ right _ => ?_).symm
  rw [keeps, keeps]

private theorem filter_orderedInsert (condition : Row α → Bool) (row : Row α)
    {sorted : List (Row α)} (ordered : sorted.Pairwise Row.Precedes) :
    (sorted.orderedInsert Row.Precedes row).filter condition =
      if condition row then (sorted.filter condition).orderedInsert Row.Precedes row
      else sorted.filter condition := by
  induction sorted with
  | nil => simp [List.filter_cons]
  | cons head rest ih =>
      obtain ⟨least, orderedRest⟩ := List.pairwise_cons.mp ordered
      by_cases before : row.Precedes head
      · have all : ∀ other ∈ (head :: rest).filter condition, row.Precedes other := by
          intro other member
          obtain rfl | later := List.mem_cons.mp (List.mem_of_mem_filter member)
          · exact before
          · exact before.trans (least other later)
        rw [List.orderedInsert_cons_of_le _ _ before, orderedInsert_of_forall_precedes all,
          List.filter_cons]
      · rw [List.orderedInsert_of_not_le _ _ before, List.filter_cons, ih orderedRest,
          List.filter_cons]
        split <;> split <;> simp [before]

theorem sortRows_filter (condition : Row α → Bool) (rows : List (Row α)) :
    sortRows (rows.filter condition) = (sortRows rows).filter condition := by
  have : IsTrans (Row α) Row.Precedes := ⟨fun _ _ _ first second => Nat.le_trans first second⟩
  have : Std.Total (Row.Precedes (α := α)) := ⟨fun left right => Nat.le_total left.seq right.seq⟩
  rw [sortRows_eq_insertionSort, sortRows_eq_insertionSort]
  induction rows with
  | nil => rfl
  | cons row rest ih =>
      rw [List.insertionSort_cons,
        filter_orderedInsert condition row (List.pairwise_insertionSort _ rest), List.filter_cons,
        ← ih]
      split <;> rfl

end Sorting

/-! ## Entries of a workspace -/

section Entries

variable {α : Type}

/-- Write an entry over those with its number, or at the end if there is none. -/
def place (entry : Int64 × α) (entries : List (Int64 × α)) : List (Int64 × α) :=
  if entry.1 ∈ entries.map Prod.fst then
    entries.map fun old => if old.1 = entry.1 then entry else old
  else
    entries ++ [entry]

/-- Write some entries one after another. -/
def placeAll (entries held : List (Int64 × α)) : List (Int64 × α) :=
  entries.foldl (fun held entry => place entry held) held

end Entries

namespace Table

variable {α : Type}

/-- What a workspace holds, in the order in which it is read. -/
def listing (table : Table α) (workspace : String) : List (Int64 × α) :=
  (sortRows (table.rowsOf workspace)).map entryOf

theorem map_entryOf_select_eq_filter (table : Table α) (workspace : String)
    (condition : α → Bool) :
    (table.select workspace fun row => condition row.columns).map entryOf =
      (table.listing workspace).filter fun entry => condition entry.2 := by
  have chosen : (table.rows.filter fun row =>
      row.workspace == workspace && condition row.columns) =
        (table.rowsOf workspace).filter fun row => condition row.columns := by
    rw [rowsOf, List.filter_filter]
    exact List.filter_congr fun row _ => Bool.and_comm _ _
  have sorted := sortRows_filter (fun row => condition row.columns) (table.rowsOf workspace)
  rw [sortRows] at sorted
  rw [select, chosen, sorted, listing, List.filter_map]
  rfl

/-- Overwrite the columns of a row if it is that of a number. -/
def overwrite (id : Int64) (columns : α) (row : Row α) : Row α :=
  if row.id = id then { row with columns } else row

theorem seq_overwrite (id : Int64) (columns : α) (row : Row α) :
    (overwrite id columns row).seq = row.seq := by
  rw [overwrite]
  split <;> rfl

theorem map_entryOf_overwrite (id : Int64) (columns : α) (rows : List (Row α)) :
    (rows.map (overwrite id columns)).map entryOf =
      (rows.map entryOf).map fun old => if old.1 = id then (id, columns) else old := by
  rw [List.map_map, List.map_map]
  refine List.map_congr_left fun row _ => ?_
  by_cases same : row.id = id <;> simp [overwrite, entryOf, same]

/-- Everything that writing does to the rows of a workspace. -/
theorem rowsOf_write (table : Table α) (workspace : String) (id : Int64) (columns : α) :
    let rows := table.rowsOf workspace
    let written := (table.write workspace id columns).rowsOf workspace
    (id ∈ rows.map Row.id ∧ written = rows.map (overwrite id columns)) ∨
      (id ∉ rows.map Row.id ∧ ∃ row : Row α, entryOf row = (id, columns) ∧
        written = rows ++ [row] ∧ ∀ other ∈ rows, other.Precedes row) := by
  have isKnown : id ∈ (table.rowsOf workspace).map Row.id ↔
      table.rows.any (fun row => row.isAt workspace id) = true := by
    rw [← table.mem_keys_iff workspace id, entries, List.map_map]
    rfl
  by_cases known : table.rows.any fun row => row.isAt workspace id
  · refine .inl ⟨isKnown.mpr known, ?_⟩
    rw [write, if_pos known, rowsOf, rowsOf_map_overwrite]
    refine List.map_congr_left fun row member => ?_
    have isThere : row.workspace = workspace := by simpa using (List.mem_filter.mp member).2
    simp [overwrite, Row.isAt, isThere]
  · refine .inr ⟨fun member => known (isKnown.mp member), ⟨table.nextSeq, workspace, id, columns⟩,
      rfl, ?_, fun other member => ?_⟩
    · rw [write, if_neg known, rowsOf, List.filter_append]
      simp [rowsOf]
    · exact Nat.le_of_lt (seq_lt_nextSeq (List.mem_filter.mp member).1)

private theorem map_entryOf_write (table : Table α) (workspace : String) (id : Int64) (columns : α)
    {order : List (Row α) → List (Row α)} (perm : ∀ rows, (order rows).Perm rows)
    (orderMap : ∀ rows, order (rows.map (overwrite id columns)) =
      (order rows).map (overwrite id columns))
    (orderConcat : ∀ rows last, (∀ row ∈ rows, row.Precedes last) →
      order (rows ++ [last]) = order rows ++ [last]) :
    (order ((table.write workspace id columns).rowsOf workspace)).map entryOf =
      place (id, columns) ((order (table.rowsOf workspace)).map entryOf) := by
  have keys : ((order (table.rowsOf workspace)).map entryOf).map Prod.fst =
      (order (table.rowsOf workspace)).map Row.id := List.map_map
  have isKnown : id ∈ (order (table.rowsOf workspace)).map Row.id ↔
      id ∈ (table.rowsOf workspace).map Row.id := ((perm _).map Row.id).mem_iff
  rw [place, keys]
  obtain ⟨known, written⟩ | ⟨fresh, row, isEntry, written, behind⟩ :=
    table.rowsOf_write workspace id columns
  · rw [written, orderMap, map_entryOf_overwrite, if_pos (isKnown.mpr known)]
  · rw [written, orderConcat _ _ behind, List.map_append, List.map_singleton, isEntry,
      if_neg (mt isKnown.mp fresh)]

/-- Writing is seen in the listing of its workspace only, where it places an entry. -/
theorem listing_write (table : Table α) (workspace : String) (id : Int64) (columns : α)
    (other : String) :
    (table.write workspace id columns).listing other =
      if other = workspace then place (id, columns) (table.listing other)
      else table.listing other := by
  split
  · rename_i same
    subst same
    exact table.map_entryOf_write other id columns (fun rows => List.mergeSort_perm rows _)
      (sortRows_map (seq_overwrite id columns)) fun _ _ behind => sortRows_concat behind
  · rename_i apart
    rw [listing, rowsOf_write_of_ne table id columns apart, listing]

/-- Writing is seen among the entries of its workspace only. -/
theorem entries_write_eq_place (table : Table α) (workspace : String) (id : Int64) (columns : α)
    (other : String) :
    (table.write workspace id columns).entries other =
      if other = workspace then place (id, columns) (table.entries other)
      else table.entries other := by
  split
  · rename_i same
    subst same
    exact table.map_entryOf_write other id columns List.Perm.refl (fun _ => rfl) fun _ _ _ => rfl
  · rename_i apart
    rw [entries, rowsOf_write_of_ne table id columns apart, entries]

theorem listing_clear (table : Table α) (workspace other : String) :
    (table.clear workspace).listing other =
      if other = workspace then [] else table.listing other := by
  rw [listing, rowsOf_clear]
  split
  · rw [sortRows, List.mergeSort_nil, List.map_nil]
  · rfl

/-- Write some entries of a workspace one after another. -/
def writeAll (table : Table α) (workspace : String) (entries : List (Int64 × α)) : Table α :=
  entries.foldl (fun written entry => written.write workspace entry.1 entry.2) table

theorem writeAll_append (table : Table α) (workspace : String)
    (first second : List (Int64 × α)) :
    table.writeAll workspace (first ++ second) =
      (table.writeAll workspace first).writeAll workspace second :=
  List.foldl_append

theorem listing_writeAll (table : Table α) (workspace : String) (entries : List (Int64 × α))
    (other : String) :
    (table.writeAll workspace entries).listing other =
      if other = workspace then placeAll entries (table.listing other)
      else table.listing other := by
  induction entries generalizing table with
  | nil => exact (ite_self _).symm
  | cons entry rest ih =>
      refine (ih (table.write workspace entry.1 entry.2)).trans ?_
      rw [listing_write]
      split <;> rfl

theorem entries_writeAll (table : Table α) (workspace : String) (entries : List (Int64 × α))
    (other : String) :
    (table.writeAll workspace entries).entries other =
      if other = workspace then placeAll entries (table.entries other)
      else table.entries other := by
  induction entries generalizing table with
  | nil => exact (ite_self _).symm
  | cons entry rest ih =>
      refine (ih (table.write workspace entry.1 entry.2)).trans ?_
      rw [entries_write_eq_place]
      split <;> rfl

/-! ### Tables that look alike -/

/-- Seen from a workspace the tables are alike: the same is listed, and the same is found first. -/
structure LooksLike (left right : Table α) (workspace : String) : Prop where
  /-- The same entries are read in the same order. -/
  listing : left.listing workspace = right.listing workspace
  /-- The same entries are stored in the same order. -/
  entries : left.entries workspace = right.entries workspace

namespace LooksLike

variable {left middle right : Table α} {workspace : String}

theorem refl (table : Table α) (workspace : String) : table.LooksLike table workspace :=
  ⟨rfl, rfl⟩

theorem symm (alike : left.LooksLike right workspace) : right.LooksLike left workspace :=
  ⟨alike.listing.symm, alike.entries.symm⟩

theorem trans (first : left.LooksLike middle workspace)
    (second : middle.LooksLike right workspace) : left.LooksLike right workspace :=
  ⟨first.listing.trans second.listing, first.entries.trans second.entries⟩

theorem count (alike : left.LooksLike right workspace) (condition : α → Bool) :
    (left.count workspace fun row => condition row.columns) =
      right.count workspace fun row => condition row.columns := by
  rw [count_eq_length, count_eq_length, alike.entries]

/-- Tables with the same rows of a workspace look alike, wherever else they differ. -/
theorem of_rowsOf (same : left.rowsOf workspace = right.rowsOf workspace) :
    left.LooksLike right workspace :=
  ⟨by rw [Table.listing, same, Table.listing], by rw [Table.entries, same, Table.entries]⟩

theorem write (alike : left.LooksLike right workspace) (id : Int64) (columns : α) :
    (left.write workspace id columns).LooksLike (right.write workspace id columns) workspace where
  listing := by rw [listing_write, listing_write, alike.listing]
  entries := by rw [entries_write_eq_place, entries_write_eq_place, alike.entries]

theorem writeAll (alike : left.LooksLike right workspace) (entries : List (Int64 × α)) :
    (left.writeAll workspace entries).LooksLike (right.writeAll workspace entries) workspace := by
  induction entries generalizing left right with
  | nil => exact alike
  | cons entry rest ih => exact ih (alike.write entry.1 entry.2)

theorem clear (left right : Table α) (workspace : String) :
    (left.clear workspace).LooksLike (right.clear workspace) workspace where
  listing := by rw [listing_clear, listing_clear, if_pos rfl, if_pos rfl]
  entries := by rw [entries_clear, entries_clear, if_pos rfl, if_pos rfl]

end LooksLike

theorem looksLike_writeAll_of_ne {workspace other : String} (table : Table α)
    (entries : List (Int64 × α)) (apart : other ≠ workspace) :
    (table.writeAll workspace entries).LooksLike table other := by
  induction entries generalizing table with
  | nil => exact .refl table other
  | cons entry rest ih =>
      exact (ih _).trans (.of_rowsOf (rowsOf_write_of_ne table entry.1 entry.2 apart))

theorem looksLike_clear_of_ne {workspace other : String} (table : Table α)
    (apart : other ≠ workspace) : (table.clear workspace).LooksLike table other :=
  .of_rowsOf (by rw [rowsOf_clear, if_neg apart])

end Table

/-! ## Databases -/

/-- The number of a symbol and the columns in which it is stored. -/
def Symbol.entry (symbol : Symbol) : Int64 × SymbolColumns :=
  (symbol.id, symbol.columns)

/-- The number of an identifier and the columns in which it is stored. -/
def Identifier.entry (identifier : Identifier) : Int64 × IdentifierColumns :=
  (identifier.id, identifier.columns)

namespace Database

theorem answer_allSymbols (database : Database) (workspace : String) :
    database.answer workspace .allSymbols =
      (database.symbols.listing workspace).map Symbol.ofEntry := by
  have selected := database.symbols.map_entryOf_select_eq_filter workspace fun _ => true
  rw [List.filter_true] at selected
  rw [← selected, List.map_map]
  rfl

theorem answer_identifiersWithin (database : Database) (workspace : String)
    (containerId : Int64) :
    database.answer workspace (.identifiersWithin containerId) =
      ((database.identifiers.listing workspace).filter fun entry =>
        entry.2.containerId == some containerId).map Identifier.ofEntry := by
  have selected := database.identifiers.map_entryOf_select_eq_filter workspace fun columns =>
    columns.containerId == some containerId
  rw [← selected, List.map_map]
  rfl

/-- Whether a stored identifier has a name, exactly or up to case. -/
def isNamed (name : String) (caseSensitive : Bool) (columns : IdentifierColumns) : Bool :=
  if caseSensitive then columns.name == name else columns.foldedName == Text.lowercase name

theorem answer_identifiersNamed (database : Database) (workspace name : String)
    (caseSensitive : Bool) :
    database.answer workspace (.identifiersNamed name caseSensitive) =
      ((database.identifiers.listing workspace).filter fun entry =>
        isNamed name caseSensitive entry.2).map Identifier.ofEntry := by
  have selected := database.identifiers.map_entryOf_select_eq_filter workspace
    (isNamed name caseSensitive)
  rw [← selected, List.map_map]
  cases caseSensitive <;> rfl

theorem writeDocument_eq (database : Database) (workspace : String) (document : IndexDocument) :
    database.writeDocument workspace document =
      { database with
        symbols := database.symbols.writeAll workspace (document.symbols.map Symbol.entry)
        identifiers :=
          database.identifiers.writeAll workspace
            (document.identifiers.map Identifier.entry) } := by
  have symbols (items : List Symbol) (database : Database) :
      items.foldl (fun written symbol => written.writeSymbol workspace symbol) database =
        { database with
          symbols := database.symbols.writeAll workspace (items.map Symbol.entry) } := by
    induction items generalizing database with
    | nil => rfl
    | cons symbol rest ih => exact ih _
  have identifiers (items : List Identifier) (database : Database) :
      items.foldl (fun written identifier => written.writeIdentifier workspace identifier)
          database =
        { database with
          identifiers := database.identifiers.writeAll workspace (items.map Identifier.entry) } := by
    induction items generalizing database with
    | nil => rfl
    | cons identifier rest ih => exact ih _
  rw [writeDocument, symbols, identifiers]

/-- Seen from a workspace both tables of the databases are alike. -/
structure LooksLike (left right : Database) (workspace : String) : Prop where
  /-- The symbols are alike. -/
  symbols : left.symbols.LooksLike right.symbols workspace
  /-- The identifiers are alike. -/
  identifiers : left.identifiers.LooksLike right.identifiers workspace

namespace LooksLike

variable {left middle right : Database} {workspace : String}

theorem refl (database : Database) (workspace : String) : database.LooksLike database workspace :=
  ⟨.refl _ workspace, .refl _ workspace⟩

theorem symm (alike : left.LooksLike right workspace) : right.LooksLike left workspace :=
  ⟨alike.symbols.symm, alike.identifiers.symm⟩

theorem trans (first : left.LooksLike middle workspace)
    (second : middle.LooksLike right workspace) : left.LooksLike right workspace :=
  ⟨first.symbols.trans second.symbols, first.identifiers.trans second.identifiers⟩

theorem answer (alike : left.LooksLike right workspace) (query : Query) :
    left.answer workspace query = right.answer workspace query := by
  cases query with
  | allSymbols => rw [answer_allSymbols, answer_allSymbols, alike.symbols.listing]
  | identifiersNamed name caseSensitive =>
      rw [answer_identifiersNamed, answer_identifiersNamed, alike.identifiers.listing]
  | identifiersWithin containerId =>
      rw [answer_identifiersWithin, answer_identifiersWithin, alike.identifiers.listing]

theorem symbol? (alike : left.LooksLike right workspace) (id : Int64) :
    left.symbol? workspace id = right.symbol? workspace id := by
  rw [symbol?_eq_find?, symbol?_eq_find?, holding, holding, alike.symbols.entries]

theorem stats (alike : left.LooksLike right workspace) :
    left.stats workspace = right.stats workspace := by
  rw [Database.stats, Database.stats, alike.symbols.count fun _ => true,
    alike.identifiers.count fun _ => true,
    alike.identifiers.count fun columns => columns.kind == IdentifierKind.call.text,
    alike.identifiers.count fun columns => columns.targetId.isSome]

theorem writeDocument (alike : left.LooksLike right workspace) (document : IndexDocument) :
    (left.writeDocument workspace document).LooksLike (right.writeDocument workspace document)
      workspace := by
  rw [writeDocument_eq, writeDocument_eq]
  exact ⟨alike.symbols.writeAll _, alike.identifiers.writeAll _⟩

theorem clear (left right : Database) (workspace : String) :
    (left.clear workspace).LooksLike (right.clear workspace) workspace :=
  ⟨.clear _ _ workspace, .clear _ _ workspace⟩

end LooksLike

theorem looksLike_writeDocument_of_ne {workspace other : String} (database : Database)
    (document : IndexDocument) (apart : other ≠ workspace) :
    (database.writeDocument workspace document).LooksLike database other := by
  rw [writeDocument_eq]
  exact ⟨Table.looksLike_writeAll_of_ne _ _ apart, Table.looksLike_writeAll_of_ne _ _ apart⟩

theorem looksLike_clear_of_ne {workspace other : String} (database : Database)
    (apart : other ≠ workspace) : (database.clear workspace).LooksLike database other :=
  ⟨Table.looksLike_clear_of_ne _ apart, Table.looksLike_clear_of_ne _ apart⟩

/-- The database after a document has been accepted. -/
def imported (database : Database) (workspace : String) (document : IndexDocument)
    (replace : Bool) : Database :=
  (if replace then database.clear workspace else database).writeDocument workspace document

theorem importDocument_eq_imported {document : IndexDocument}
    (upright : document.symbols.any Symbol.isInverted = false) (database : Database)
    (workspace : String) (replace : Bool) :
    database.importDocument workspace document replace =
      .ok (database.imported workspace document replace) :=
  importDocument_of_upright upright database workspace replace

/-- Databases that look alike do so after a document has been imported into both. -/
theorem LooksLike.imported {left right : Database} {workspace : String}
    (alike : left.LooksLike right workspace) (document : IndexDocument) (replace : Bool) :
    (left.imported workspace document replace).LooksLike
      (right.imported workspace document replace) workspace := by
  cases replace with
  | true => exact (LooksLike.clear left right workspace).writeDocument document
  | false => exact alike.writeDocument document

theorem looksLike_imported_of_ne {workspace other : String} (database : Database)
    (document : IndexDocument) (replace : Bool) (apart : other ≠ workspace) :
    (database.imported workspace document replace).LooksLike database other := by
  cases replace with
  | true =>
      exact (looksLike_writeDocument_of_ne _ document apart).trans
        (database.looksLike_clear_of_ne apart)
  | false => exact database.looksLike_writeDocument_of_ne document apart

/-- Databases list the same workspaces if each holds the same entries in both, in whatever order. -/
theorem workspaces_eq_of_perm {left right : Database}
    (symbols : ∀ workspace,
      (left.symbols.entries workspace).Perm (right.symbols.entries workspace))
    (identifiers : ∀ workspace,
      (left.identifiers.entries workspace).Perm (right.identifiers.entries workspace)) :
    left.workspaces = right.workspaces := by
  have irreflexive : Std.Irrefl fun first second => Text.bytes first < Text.bytes second :=
    ⟨fun _ => List.lt_irrefl _⟩
  have antisymmetric : Std.Antisymm fun first second => Text.bytes first < Text.bytes second :=
    ⟨fun _ _ before after => absurd after (List.lt_asymm before)⟩
  refine List.Pairwise.eq_of_mem_iff left.ascendByBytes_workspaces right.ascendByBytes_workspaces
    fun workspace => ?_
  simp only [mem_workspaces_iff, holding, ne_eq, ← List.length_eq_zero_iff, List.length_map,
    (symbols workspace).length_eq, (identifiers workspace).length_eq]

/-- Databases that look alike from every workspace list the same workspaces. -/
theorem workspaces_eq_of_looksLike {left right : Database}
    (alike : ∀ workspace, left.LooksLike right workspace) : left.workspaces = right.workspaces :=
  workspaces_eq_of_perm (fun workspace => .of_eq (alike workspace).symbols.entries)
    fun workspace => .of_eq (alike workspace).identifiers.entries

end Database

end CallTrace
