import CallTrace.Proofs.Listing

/-!
# Laws of importing

Imports can be replaced by others that leave the same behind. An import that replaces what a
workspace held clears it and appends. A document that is appended twice might as well have been
appended once, and two documents one after the other are the one that joins them. Documents without
a number in common may be appended in either order: only the places of new rows depend on it. Imports
into two workspaces commute.
-/

namespace CallTrace

/-! ## Placing entries -/

section Placing

variable {α : Type}

/-- An entry with the columns that the last of some entries with its number has, if there is one. -/
def revise (entries : List (Int64 × α)) (held : Int64 × α) : Int64 × α :=
  entries.foldl (fun held entry => if held.1 = entry.1 then entry else held) held

theorem fst_revise (entries : List (Int64 × α)) (held : Int64 × α) :
    (revise entries held).1 = held.1 := by
  induction entries generalizing held with
  | nil => rfl
  | cons entry rest ih =>
      rw [revise, List.foldl_cons, ← revise, ih]
      by_cases same : held.1 = entry.1
      · rw [if_pos same, same]
      · rw [if_neg same]

theorem revise_of_not_mem {entries : List (Int64 × α)} {held : Int64 × α}
    (absent : held.1 ∉ entries.map Prod.fst) : revise entries held = held := by
  induction entries generalizing held with
  | nil => rfl
  | cons entry rest ih =>
      rw [List.map_cons, List.mem_cons, not_or] at absent
      rw [revise, List.foldl_cons, if_neg absent.1]
      exact ih absent.2

/-- Revisions by entries without a number in common may be made in either order. -/
theorem revise_comm {first second : List (Int64 × α)}
    (apart : (first.map Prod.fst).Disjoint (second.map Prod.fst)) (held : Int64 × α) :
    revise second (revise first held) = revise first (revise second held) := by
  by_cases known : held.1 ∈ first.map Prod.fst
  · have absent := apart known
    rw [revise_of_not_mem absent, revise_of_not_mem (by rwa [fst_revise])]
  · have stillUnknown : (revise second held).1 ∉ first.map Prod.fst := by rwa [fst_revise]
    rw [revise_of_not_mem known, revise_of_not_mem stillUnknown]

theorem map_fst_map_revise (entries held : List (Int64 × α)) :
    (held.map (revise entries)).map Prod.fst = held.map Prod.fst := by
  rw [List.map_map]
  exact List.map_congr_left fun entry _ => fst_revise entries entry

theorem mem_map_fst_place {entry : Int64 × α} {held : List (Int64 × α)} {id : Int64} :
    id ∈ (place entry held).map Prod.fst ↔ id = entry.1 ∨ id ∈ held.map Prod.fst := by
  rw [place]
  split
  · rename_i known
    have same : (held.map fun old => if old.1 = entry.1 then entry else old).map Prod.fst =
        held.map Prod.fst := map_fst_map_revise [entry] held
    rw [same]
    exact ⟨.inr, fun either => either.elim (fun isEntry => isEntry ▸ known) fun isHeld => isHeld⟩
  · rw [List.map_append, List.mem_append, List.map_singleton, List.mem_singleton, or_comm]

/-- Entries of known numbers revise what is held, and those of new ones are placed behind it. -/
theorem placeAll_append (entries : List (Int64 × α)) {held added : List (Int64 × α)}
    (apart : (held.map Prod.fst).Disjoint (added.map Prod.fst)) :
    placeAll entries (held ++ added) =
      held.map (revise (entries.filter (·.1 ∈ held.map Prod.fst))) ++
        placeAll (entries.filter (·.1 ∉ held.map Prod.fst)) added := by
  induction entries generalizing held added with
  | nil =>
      rw [List.filter_nil, List.filter_nil]
      exact congrArg (· ++ added) (List.map_id held).symm
  | cons entry rest ih =>
      rw [placeAll, List.foldl_cons, ← placeAll]
      by_cases known : entry.1 ∈ held.map Prod.fst
      · have unchanged : added.map (fun old => if old.1 = entry.1 then entry else old) = added := by
          conv_rhs => rw [← List.map_id added]
          refine List.map_congr_left fun old member => if_neg fun same => ?_
          exact apart (same ▸ known) (List.mem_map_of_mem member)
        have placed : place entry (held ++ added) = held.map (revise [entry]) ++ added := by
          rw [place, if_pos (by simp [known]), List.map_append, unchanged]
          rfl
        have keys := map_fst_map_revise [entry] held
        rw [placed, ih (keys.symm ▸ apart), keys, List.map_map,
          List.filter_cons_of_pos (by simpa using known),
          List.filter_cons_of_neg (by simpa using known)]
        rfl
      · have placed : place entry (held ++ added) = held ++ place entry added := by
          by_cases isAdded : entry.1 ∈ added.map Prod.fst
          · have unchanged : held.map (fun old => if old.1 = entry.1 then entry else old) =
                held := by
              conv_rhs => rw [← List.map_id held]
              refine List.map_congr_left fun old member => if_neg fun same => ?_
              exact known (same ▸ List.mem_map_of_mem member)
            rw [place, if_pos (by simp [isAdded]), List.map_append, unchanged, place,
              if_pos isAdded]
          · rw [place, if_neg (by simp [known, isAdded]), place, if_neg isAdded,
              List.append_assoc]
        have stillApart : (held.map Prod.fst).Disjoint ((place entry added).map Prod.fst) := by
          intro id isHeld isPlaced
          obtain rfl | isAdded := mem_map_fst_place.mp isPlaced
          · exact known isHeld
          · exact apart isHeld isAdded
        rw [placed, ih stillApart, List.filter_cons_of_neg (by simpa using known),
          List.filter_cons_of_pos (by simpa using known)]
        rfl

/-- Both lists begin with the same entries, those of the numbers that were held before. The further
ones belong to two groups without a number in common, and the lists have these groups in opposite
orders. -/
def SwapsNew (held left right : List (Int64 × α)) : Prop :=
  ∃ kept first second,
    kept.map Prod.fst = held.map Prod.fst ∧ left = kept ++ (first ++ second) ∧
      right = kept ++ (second ++ first) ∧ (first.map Prod.fst).Disjoint (second.map Prod.fst)

namespace SwapsNew

variable {held left right : List (Int64 × α)}

theorem perm (swaps : SwapsNew held left right) : left.Perm right := by
  obtain ⟨kept, first, second, -, rfl, rfl, -⟩ := swaps
  exact List.perm_append_comm.append_left kept

theorem find?_eq (swaps : SwapsNew held left right) (id : Int64) :
    left.find? (fun entry => entry.1 == id) = right.find? fun entry => entry.1 == id := by
  obtain ⟨kept, first, second, -, rfl, rfl, apart⟩ := swaps
  have absent (entries : List (Int64 × α)) (unknown : id ∉ entries.map Prod.fst) :
      entries.find? (fun entry => entry.1 == id) = none := by
    refine List.find?_eq_none.mpr fun entry member same => unknown ?_
    exact List.mem_map.mpr ⟨entry, member, eq_of_beq same⟩
  simp only [List.find?_append]
  by_cases isFirst : id ∈ first.map Prod.fst
  · rw [absent second (apart isFirst), Option.or_none, Option.none_or]
  · rw [absent first isFirst, Option.or_none, Option.none_or]

end SwapsNew

theorem mem_map_fst_placeAll {entries held : List (Int64 × α)} {id : Int64} :
    id ∈ (placeAll entries held).map Prod.fst ↔
      id ∈ entries.map Prod.fst ∨ id ∈ held.map Prod.fst := by
  induction entries generalizing held with
  | nil => simp [placeAll]
  | cons entry rest ih =>
      rw [placeAll, List.foldl_cons, ← placeAll, ih, mem_map_fst_place, List.map_cons,
        List.mem_cons, or_left_comm, or_assoc]

theorem placeAll_of_fresh {entries held : List (Int64 × α)}
    (apart : (held.map Prod.fst).Disjoint (entries.map Prod.fst)) :
    placeAll entries held = held ++ placeAll entries [] := by
  have fresh : ∀ entry ∈ entries, entry.1 ∉ held.map Prod.fst := fun entry member known =>
    apart known (List.mem_map_of_mem member)
  have apartFromNone : (held.map Prod.fst).Disjoint (([] : List (Int64 × α)).map Prod.fst) :=
    List.disjoint_nil_right _
  have placed := placeAll_append entries apartFromNone
  rw [List.append_nil, List.filter_eq_nil_iff.mpr (by simpa using fresh),
    List.filter_eq_self.mpr (by simpa using fresh)] at placed
  rw [placed]
  exact congrArg (· ++ placeAll entries []) (List.map_id held)

/-- Entries of two groups without a number in common may be placed in either order: only the new
ones change places. -/
theorem swapsNew_placeAll {first second : List (Int64 × α)}
    (apart : (first.map Prod.fst).Disjoint (second.map Prod.fst)) (held : List (Int64 × α)) :
    SwapsNew held (placeAll second (placeAll first held))
      (placeAll first (placeAll second held)) := by
  let known (entries : List (Int64 × α)) := entries.filter (·.1 ∈ held.map Prod.fst)
  let fresh (entries : List (Int64 × α)) := entries.filter (·.1 ∉ held.map Prod.fst)
  have chosenApart (condition : Int64 × α → Bool) :
      ((first.filter condition).map Prod.fst).Disjoint
        ((second.filter condition).map Prod.fst) :=
    List.disjoint_of_subset_left (List.map_subset _ (List.filter_subset_self _))
      (List.disjoint_of_subset_right (List.map_subset _ (List.filter_subset_self _)) apart)
  have knownApart : ((known first).map Prod.fst).Disjoint ((known second).map Prod.fst) :=
    chosenApart _
  have freshApart : ((fresh first).map Prod.fst).Disjoint ((fresh second).map Prod.fst) :=
    chosenApart _
  have placed (one other : List (Int64 × α))
      (apart : ((fresh one).map Prod.fst).Disjoint ((fresh other).map Prod.fst)) :
      placeAll other (placeAll one held) =
        held.map (fun entry => revise (known other) (revise (known one) entry)) ++
          (placeAll (fresh one) [] ++ placeAll (fresh other) []) := by
    have joined : placeAll other (placeAll one held) = placeAll (one ++ other) (held ++ []) := by
      rw [List.append_nil, placeAll, placeAll, placeAll, List.foldl_append]
    have behind : placeAll (fresh one ++ fresh other) [] =
        placeAll (fresh one) [] ++ placeAll (fresh other) [] := by
      rw [placeAll, List.foldl_append, ← placeAll, ← placeAll]
      refine placeAll_of_fresh fun id isOne isOther => apart ?_ isOther
      simpa using mem_map_fst_placeAll.mp isOne
    rw [joined, placeAll_append _ (List.disjoint_nil_right _), List.filter_append,
      List.filter_append, behind]
    congr 1
    exact List.map_congr_left fun entry _ => List.foldl_append
  refine ⟨_, _, _, ?_, placed first second freshApart, ?_, ?_⟩
  · rw [List.map_map]
    exact List.map_congr_left fun entry _ => (fst_revise _ _).trans (fst_revise _ _)
  · rw [placed second first freshApart.symm]
    congr 1
    exact List.map_congr_left fun entry _ => (revise_comm knownApart entry).symm
  · intro id isFirst isSecond
    exact freshApart (by simpa using mem_map_fst_placeAll.mp isFirst)
      (by simpa using mem_map_fst_placeAll.mp isSecond)

end Placing

/-! ## Writing -/

namespace Table

variable {α : Type}

/-- Overwrite the columns of a row if it is that of a number within a workspace. -/
def overwriteAt (workspace : String) (id : Int64) (columns : α) (row : Row α) : Row α :=
  if row.isAt workspace id then { row with columns } else row

theorem isAt_overwriteAt (workspace : String) (id : Int64) (columns : α) (row : Row α)
    (other : Int64) :
    (overwriteAt workspace id columns row).isAt workspace other = row.isAt workspace other := by
  rw [overwriteAt]
  split <;> rfl

theorem overwriteAt_overwriteAt (workspace : String) (id : Int64) (first second : α)
    (row : Row α) :
    overwriteAt workspace id second (overwriteAt workspace id first row) =
      overwriteAt workspace id second row := by
  rw [overwriteAt, isAt_overwriteAt, overwriteAt, overwriteAt]
  split <;> rfl

theorem overwriteAt_comm {id other : Int64} (apart : id ≠ other) (workspace : String)
    (columns otherColumns : α) (row : Row α) :
    overwriteAt workspace other otherColumns (overwriteAt workspace id columns row) =
      overwriteAt workspace id columns (overwriteAt workspace other otherColumns row) := by
  have notBoth : ¬(row.isAt workspace id ∧ row.isAt workspace other) := fun both => by
    simp only [Row.isAt, Bool.and_eq_true, beq_iff_eq] at both
    exact apart (both.1.2.symm.trans both.2.2)
  rw [overwriteAt, isAt_overwriteAt, overwriteAt.eq_def _ id _ (overwriteAt _ _ _ _),
    isAt_overwriteAt, overwriteAt, overwriteAt]
  by_cases isThere : row.isAt workspace id <;> by_cases isOther : row.isAt workspace other
  · exact absurd ⟨isThere, isOther⟩ notBoth
  all_goals simp only [isThere, isOther, if_true, if_false, Bool.false_eq_true]

theorem write_of_known {table : Table α} {workspace : String} {id : Int64}
    (known : id ∈ (table.entries workspace).map Prod.fst) (columns : α) :
    table.write workspace id columns = ⟨table.rows.map (overwriteAt workspace id columns)⟩ := by
  rw [write, if_pos ((table.mem_keys_iff workspace id).mp known)]
  rfl

theorem write_of_fresh {table : Table α} {workspace : String} {id : Int64}
    (fresh : id ∉ (table.entries workspace).map Prod.fst) (columns : α) :
    table.write workspace id columns =
      ⟨table.rows ++ [{ seq := table.nextSeq, workspace, id, columns }]⟩ := by
  rw [write, if_neg (mt (table.mem_keys_iff workspace id).mpr fresh)]

theorem mem_keys_write {table : Table α} {workspace : String} {id written : Int64} {columns : α} :
    id ∈ ((table.write workspace written columns).entries workspace).map Prod.fst ↔
      id = written ∨ id ∈ (table.entries workspace).map Prod.fst := by
  rw [entries_write_eq_place, if_pos rfl, mem_map_fst_place]

/-- Columns are lost when others are written over them. -/
theorem write_write (table : Table α) (workspace : String) (id : Int64) (first second : α) :
    (table.write workspace id first).write workspace id second =
      table.write workspace id second := by
  rw [write_of_known (mem_keys_write.mpr (.inl rfl))]
  by_cases known : id ∈ (table.entries workspace).map Prod.fst
  · rw [write_of_known known, write_of_known known, List.map_map]
    congr 1
    exact List.map_congr_left fun row _ => overwriteAt_overwriteAt workspace id first second row
  · have unchanged : table.rows.map (overwriteAt workspace id second) = table.rows := by
      conv_rhs => rw [← List.map_id table.rows]
      refine List.map_congr_left fun row member => if_neg fun isThere => known ?_
      exact (table.mem_keys_iff workspace id).mpr (List.any_eq_true.mpr ⟨row, member, isThere⟩)
    rw [write_of_fresh known, write_of_fresh known, List.map_append, unchanged]
    simp [overwriteAt, Row.isAt]

private theorem nextSeq_map_overwriteAt (table : Table α) (workspace : String) (id : Int64)
    (columns : α) :
    nextSeq ⟨table.rows.map (overwriteAt workspace id columns)⟩ = table.nextSeq := by
  have same (row : Row α) : (overwriteAt workspace id columns row).seq = row.seq := by
    rw [overwriteAt]
    split <;> rfl
  simp only [nextSeq, List.foldl_map, same]

theorem write_comm_of_known {table : Table α} {workspace : String} {id other : Int64}
    (known : id ∈ (table.entries workspace).map Prod.fst) (apart : id ≠ other)
    (columns otherColumns : α) :
    (table.write workspace id columns).write workspace other otherColumns =
      (table.write workspace other otherColumns).write workspace id columns := by
  rw [write_of_known (mem_keys_write.mpr (.inr known)) columns]
  by_cases otherKnown : other ∈ (table.entries workspace).map Prod.fst
  · rw [write_of_known (mem_keys_write.mpr (.inr otherKnown)), write_of_known known,
      write_of_known otherKnown, List.map_map, List.map_map]
    congr 1
    exact List.map_congr_left fun row _ =>
      overwriteAt_comm apart workspace columns otherColumns row
  · have stillFresh : other ∉ ((table.write workspace id columns).entries workspace).map Prod.fst :=
      fun member => (mem_keys_write.mp member).elim (apart ·.symm) otherKnown
    rw [write_of_fresh stillFresh, write_of_fresh otherKnown, write_of_known known,
      nextSeq_map_overwriteAt, List.map_append]
    simp [overwriteAt, Row.isAt, apart.symm]

theorem writeAll_write_of_mem {table : Table α} {workspace : String} {id : Int64}
    (known : id ∈ (table.entries workspace).map Prod.fst) (columns : α)
    {entries : List (Int64 × α)} (later : id ∈ entries.map Prod.fst) :
    (table.write workspace id columns).writeAll workspace entries =
      table.writeAll workspace entries := by
  induction entries generalizing table with
  | nil => simp at later
  | cons entry rest ih =>
      rw [writeAll, writeAll, List.foldl_cons, List.foldl_cons, ← writeAll, ← writeAll]
      by_cases same : id = entry.1
      · rw [same, write_write]
      · rw [write_comm_of_known known same]
        refine ih (mem_keys_write.mpr (.inr known)) ?_
        exact (List.mem_cons.mp later).resolve_left same

theorem writeAll_write_of_not_mem {table : Table α} {workspace : String} {id : Int64}
    (known : id ∈ (table.entries workspace).map Prod.fst) (columns : α)
    {entries : List (Int64 × α)} (absent : id ∉ entries.map Prod.fst) :
    (table.write workspace id columns).writeAll workspace entries =
      (table.writeAll workspace entries).write workspace id columns := by
  induction entries generalizing table with
  | nil => rfl
  | cons entry rest ih =>
      rw [List.map_cons, List.mem_cons, not_or] at absent
      rw [writeAll, writeAll, List.foldl_cons, List.foldl_cons, ← writeAll, ← writeAll,
        write_comm_of_known known absent.1]
      exact ih (mem_keys_write.mpr (.inr known)) absent.2

theorem writeAll_writeAll (table : Table α) (workspace : String) (entries : List (Int64 × α)) :
    (table.writeAll workspace entries).writeAll workspace entries =
      table.writeAll workspace entries := by
  induction entries generalizing table with
  | nil => rfl
  | cons entry rest ih =>
      let written := table.write workspace entry.1 entry.2
      have known : entry.1 ∈ (written.entries workspace).map Prod.fst :=
        mem_keys_write.mpr (.inl rfl)
      change ((written.writeAll workspace rest).write workspace entry.1 entry.2).writeAll
        workspace rest = written.writeAll workspace rest
      by_cases again : entry.1 ∈ rest.map Prod.fst
      · have stillKnown : entry.1 ∈ ((written.writeAll workspace rest).entries workspace).map
            Prod.fst := by
          rw [entries_writeAll, if_pos rfl]
          exact mem_map_fst_placeAll.mpr (.inr known)
        rw [writeAll_write_of_mem stillKnown entry.2 again, ih]
      · have rewritten : written.write workspace entry.1 entry.2 = written :=
          write_write table workspace entry.1 entry.2 entry.2
        rw [← writeAll_write_of_not_mem known entry.2 again, rewritten, ih]

end Table

/-! ## Importing -/

/-- The answers list the same, in whatever order. -/
def Query.Rearranges : (query : Query) → query.Answer → query.Answer → Prop
  | .allSymbols => List.Perm
  | .identifiersNamed _ _ => List.Perm
  | .identifiersWithin _ => List.Perm

/-- The document that gives everything in one document and then everything in another one. -/
def IndexDocument.append (first second : IndexDocument) : IndexDocument where
  symbols := first.symbols ++ second.symbols
  identifiers := first.identifiers ++ second.identifiers

/-- The documents have neither the number of a symbol nor that of an identifier in common. -/
structure IndexDocument.IsApart (first second : IndexDocument) : Prop where
  /-- No symbols have the same number. -/
  symbols : (first.symbols.map Symbol.id).Disjoint (second.symbols.map Symbol.id)
  /-- No identifiers have the same number. -/
  identifiers :
    (first.identifiers.map Identifier.id).Disjoint (second.identifiers.map Identifier.id)

namespace Database

/-- Whatever is asked of the databases, their answers are alike. -/
structure AgreesUpTo (alike : (query : Query) → query.Answer → query.Answer → Prop)
    (left right : Database) : Prop where
  /-- Queries have alike answers. -/
  answer : ∀ workspace query,
    alike query (left.answer workspace query) (right.answer workspace query)
  /-- The same symbol is found under every number. -/
  symbol? : ∀ workspace id, left.symbol? workspace id = right.symbol? workspace id
  /-- As much is counted. -/
  stats : ∀ workspace, left.stats workspace = right.stats workspace
  /-- The same workspaces are listed. -/
  workspaces : left.workspaces = right.workspaces

/-- The databases were made from one by writing into a workspace. There only the places of what is
new differ, and elsewhere nothing does. -/
structure SwapsNew (held left right : Database) (workspace : String) : Prop where
  /-- The order in which symbols are read. -/
  symbols : CallTrace.SwapsNew (held.symbols.listing workspace) (left.symbols.listing workspace)
    (right.symbols.listing workspace)
  /-- The order in which symbols are stored. -/
  storedSymbols : CallTrace.SwapsNew (held.symbols.entries workspace)
    (left.symbols.entries workspace) (right.symbols.entries workspace)
  /-- The order in which identifiers are read. -/
  identifiers : CallTrace.SwapsNew (held.identifiers.listing workspace)
    (left.identifiers.listing workspace) (right.identifiers.listing workspace)
  /-- The order in which identifiers are stored. -/
  storedIdentifiers : CallTrace.SwapsNew (held.identifiers.entries workspace)
    (left.identifiers.entries workspace) (right.identifiers.entries workspace)
  /-- The other workspaces. -/
  elsewhere : ∀ other ≠ workspace, left.LooksLike right other

theorem agreesUpTo_eq_of_looksLike {left right : Database}
    (alike : ∀ workspace, left.LooksLike right workspace) :
    left.AgreesUpTo (fun _ => Eq) right where
  answer workspace query := (alike workspace).answer query
  symbol? workspace id := (alike workspace).symbol? id
  stats workspace := (alike workspace).stats
  workspaces := workspaces_eq_of_looksLike alike

theorem rearranges_answer {left right : Database} {workspace : String}
    (symbols : (left.symbols.listing workspace).Perm (right.symbols.listing workspace))
    (identifiers :
      (left.identifiers.listing workspace).Perm (right.identifiers.listing workspace))
    (query : Query) :
    query.Rearranges (left.answer workspace query) (right.answer workspace query) := by
  cases query with
  | allSymbols =>
      rw [answer_allSymbols, answer_allSymbols]
      exact symbols.map _
  | identifiersNamed name caseSensitive =>
      rw [answer_identifiersNamed, answer_identifiersNamed]
      exact (identifiers.filter _).map _
  | identifiersWithin containerId =>
      rw [answer_identifiersWithin, answer_identifiersWithin]
      exact (identifiers.filter _).map _

theorem symbol?_eq_map_find? (database : Database) (workspace : String) (id : Int64) :
    database.symbol? workspace id =
      ((database.symbols.entries workspace).find? fun entry => entry.1 == id).map
        Symbol.ofEntry := by
  rw [symbol?, ← Table.map_entryOf_find?, Option.map_map]
  rfl

theorem stats_eq_of_perm {left right : Database} {workspace : String}
    (symbols : (left.symbols.entries workspace).Perm (right.symbols.entries workspace))
    (identifiers :
      (left.identifiers.entries workspace).Perm (right.identifiers.entries workspace)) :
    left.stats workspace = right.stats workspace := by
  have countSymbols (condition : SymbolColumns → Bool) :
      (left.symbols.count workspace fun row => condition row.columns) =
        right.symbols.count workspace fun row => condition row.columns := by
    rw [Table.count_eq_length, Table.count_eq_length]
    exact (symbols.filter _).length_eq
  have countIdentifiers (condition : IdentifierColumns → Bool) :
      (left.identifiers.count workspace fun row => condition row.columns) =
        right.identifiers.count workspace fun row => condition row.columns := by
    rw [Table.count_eq_length, Table.count_eq_length]
    exact (identifiers.filter _).length_eq
  rw [stats, stats, countSymbols fun _ => true, countIdentifiers fun _ => true,
    countIdentifiers fun columns => columns.kind == IdentifierKind.call.text,
    countIdentifiers fun columns => columns.targetId.isSome]

/-- Where only the places of what is new differ, only the order of answers does. -/
theorem SwapsNew.agreesUpTo {held left right : Database} {workspace : String}
    (swaps : SwapsNew held left right workspace) : left.AgreesUpTo Query.Rearranges right where
  answer other query := by
    by_cases same : other = workspace
    · subst same
      exact rearranges_answer swaps.symbols.perm swaps.identifiers.perm query
    · have alike := swaps.elsewhere other same
      exact rearranges_answer (.of_eq alike.symbols.listing) (.of_eq alike.identifiers.listing)
        query
  symbol? other id := by
    by_cases same : other = workspace
    · subst same
      rw [symbol?_eq_map_find?, symbol?_eq_map_find?, swaps.storedSymbols.find?_eq]
    · exact (swaps.elsewhere other same).symbol? id
  stats other := by
    by_cases same : other = workspace
    · subst same
      exact stats_eq_of_perm swaps.storedSymbols.perm swaps.storedIdentifiers.perm
    · exact (swaps.elsewhere other same).stats
  workspaces := by
    refine workspaces_eq_of_perm (fun other => ?_) fun other => ?_
    · by_cases same : other = workspace
      · subst same
        exact swaps.storedSymbols.perm
      · exact .of_eq (swaps.elsewhere other same).symbols.entries
    · by_cases same : other = workspace
      · subst same
        exact swaps.storedIdentifiers.perm
      · exact .of_eq (swaps.elsewhere other same).identifiers.entries

/-- A document that is written twice might as well have been written once. -/
theorem writeDocument_writeDocument (database : Database) (workspace : String)
    (document : IndexDocument) :
    (database.writeDocument workspace document).writeDocument workspace document =
      database.writeDocument workspace document := by
  simp only [writeDocument_eq, Table.writeAll_writeAll]

theorem writeDocument_append (database : Database) (workspace : String)
    (first second : IndexDocument) :
    (database.writeDocument workspace first).writeDocument workspace second =
      database.writeDocument workspace (first.append second) := by
  simp only [writeDocument_eq, IndexDocument.append, List.map_append, Table.writeAll_append]

/-- Documents without a number in common may be written in either order. -/
theorem swapsNew_writeDocument {first second : IndexDocument} (apart : first.IsApart second)
    (database : Database) (workspace : String) :
    SwapsNew database
      ((database.writeDocument workspace first).writeDocument workspace second)
      ((database.writeDocument workspace second).writeDocument workspace first) workspace := by
  have symbols : ((first.symbols.map Symbol.entry).map Prod.fst).Disjoint
      ((second.symbols.map Symbol.entry).map Prod.fst) := by
    rw [List.map_map, List.map_map]
    exact apart.symbols
  have identifiers : ((first.identifiers.map Identifier.entry).map Prod.fst).Disjoint
      ((second.identifiers.map Identifier.entry).map Prod.fst) := by
    rw [List.map_map, List.map_map]
    exact apart.identifiers
  refine ⟨?_, ?_, ?_, ?_, fun other elsewhere => ?_⟩
  · simp only [writeDocument_eq, Table.listing_writeAll, if_true]
    exact swapsNew_placeAll symbols _
  · simp only [writeDocument_eq, Table.entries_writeAll, if_true]
    exact swapsNew_placeAll symbols _
  · simp only [writeDocument_eq, Table.listing_writeAll, if_true]
    exact swapsNew_placeAll identifiers _
  · simp only [writeDocument_eq, Table.entries_writeAll, if_true]
    exact swapsNew_placeAll identifiers _
  · have unseen (one two : IndexDocument) :
        ((database.writeDocument workspace one).writeDocument workspace two).LooksLike database
          other :=
      (looksLike_writeDocument_of_ne _ two elsewhere).trans
        (looksLike_writeDocument_of_ne _ one elsewhere)
    exact (unseen first second).trans (unseen second first).symm

/-- Imports into two workspaces may be made in either order. -/
theorem looksLike_imported_imported {workspace other : String} (apart : other ≠ workspace)
    (database : Database) (first second : IndexDocument) (replaceFirst replaceSecond : Bool)
    (seenFrom : String) :
    ((database.imported workspace first replaceFirst).imported other second
      replaceSecond).LooksLike
      ((database.imported other second replaceSecond).imported workspace first replaceFirst)
      seenFrom := by
  by_cases isFirst : seenFrom = workspace
  · subst isFirst
    refine (looksLike_imported_of_ne _ second replaceSecond apart.symm).trans ?_
    exact (looksLike_imported_of_ne database second replaceSecond apart.symm).symm.imported first
      replaceFirst
  · refine LooksLike.trans ?_
      (looksLike_imported_of_ne _ first replaceFirst isFirst).symm
    by_cases isSecond : seenFrom = other
    · subst isSecond
      exact (looksLike_imported_of_ne database first replaceFirst apart).imported second
        replaceSecond
    · exact (looksLike_imported_of_ne _ second replaceSecond isSecond).trans
        ((looksLike_imported_of_ne database first replaceFirst isFirst).trans
          (looksLike_imported_of_ne database second replaceSecond isSecond).symm)

/-- The laws of importing documents in which every symbol starts before it ends, into any database.
All imports are accepted. To replace is to clear and append. To append a document twice is to append
it once, and to append two is to append the one that joins them. If they have no number in common,
either order leaves the same symbols and identifiers behind, and what was there before keeps its
order. Imports into two workspaces, whether or not they replace, may be made in either order. -/
theorem importDocument_laws (database : Database) (workspace : String)
    {first second : IndexDocument}
    (firstUpright : first.symbols.any Symbol.isInverted = false)
    (secondUpright : second.symbols.any Symbol.isInverted = false) :
    (∀ replace, ∃ written, database.importDocument workspace first replace = .ok written) ∧
      database.importDocument workspace first true =
        (database.clear workspace).importDocument workspace first false ∧
      (do
        let once ← database.importDocument workspace first false
        once.importDocument workspace first false) =
        database.importDocument workspace first false ∧
      (do
        let held ← database.importDocument workspace first false
        held.importDocument workspace second false) =
        database.importDocument workspace (first.append second) false ∧
      (first.IsApart second → ∃ left right,
        (do
          let held ← database.importDocument workspace first false
          held.importDocument workspace second false) = .ok left ∧
          (do
            let held ← database.importDocument workspace second false
            held.importDocument workspace first false) = .ok right ∧
          SwapsNew database left right workspace ∧ left.AgreesUpTo Query.Rearranges right) ∧
      ∀ other ≠ workspace, ∀ replaceFirst replaceSecond, ∃ left right,
        (do
          let held ← database.importDocument workspace first replaceFirst
          held.importDocument other second replaceSecond) = .ok left ∧
          (do
            let held ← database.importDocument other second replaceSecond
            held.importDocument workspace first replaceFirst) = .ok right ∧
          (∀ seenFrom, left.LooksLike right seenFrom) ∧ left.AgreesUpTo (fun _ => Eq) right := by
  have joinedUpright : (first.append second).symbols.any Symbol.isInverted = false := by
    rw [IndexDocument.append, List.any_append, firstUpright, secondUpright, Bool.or_false]
  have one := importDocument_eq_imported firstUpright
  have two := importDocument_eq_imported secondUpright
  have joined := importDocument_eq_imported joinedUpright
  simp only [one, two, joined]
  refine ⟨fun replace => ⟨_, rfl⟩, rfl, ?_, ?_, fun apart => ⟨_, _, rfl, rfl, ?_⟩,
    fun other elsewhere replaceFirst replaceSecond => ⟨_, _, rfl, rfl, ?_⟩⟩
  · exact congrArg Except.ok (writeDocument_writeDocument database workspace first)
  · exact congrArg Except.ok (writeDocument_append database workspace first second)
  · have swaps := swapsNew_writeDocument apart database workspace
    exact ⟨swaps, swaps.agreesUpTo⟩
  · have alike := looksLike_imported_imported elsewhere database first second replaceFirst
      replaceSecond
    exact ⟨alike, agreesUpTo_eq_of_looksLike alike⟩

/-- A document without a number of the document that gives one twice. -/
def unrelatedDocument : IndexDocument where
  symbols := [⟨3, "park", .ofText "fn", "b.rs", 1, 2⟩]
  identifiers := [⟨8, "run", .ofText "call", "b.rs", some 1, some 3, none⟩]

theorem importDocument_laws_repeating :
    let database := fresh.writeDocument "/" ⟨[⟨2, "halt", .ofText "fn", "a.rs", 6, 9⟩], []⟩
    Session.repeatingDocument.symbols.any Symbol.isInverted = false ∧
      unrelatedDocument.symbols.any Symbol.isInverted = false ∧
      Session.repeatingDocument.IsApart unrelatedDocument ∧ "/b" ≠ "/" ∧
      (∃ left right,
        (do
          let held ← database.importDocument "/" Session.repeatingDocument false
          held.importDocument "/" unrelatedDocument false) = .ok left ∧
          (do
            let held ← database.importDocument "/" unrelatedDocument false
            held.importDocument "/" Session.repeatingDocument false) = .ok right ∧
          SwapsNew database left right "/") ∧
      ∃ left right,
        (do
          let held ← database.importDocument "/" Session.repeatingDocument true
          held.importDocument "/b" unrelatedDocument false) = .ok left ∧
          (do
            let held ← database.importDocument "/b" unrelatedDocument false
            held.importDocument "/" Session.repeatingDocument true) = .ok right ∧
          left.AgreesUpTo (fun _ => Eq) right := by
  intro database
  have firstUpright : Session.repeatingDocument.symbols.any Symbol.isInverted = false := by decide
  have secondUpright : unrelatedDocument.symbols.any Symbol.isInverted = false := by decide
  have apart : Session.repeatingDocument.IsApart unrelatedDocument :=
    ⟨List.disjoint_singleton.mpr (by decide : 3 ∉ Session.repeatingDocument.symbols.map Symbol.id),
      List.disjoint_singleton.mpr
        (by decide : 8 ∉ Session.repeatingDocument.identifiers.map Identifier.id)⟩
  obtain ⟨-, -, -, -, swap, commute⟩ :=
    importDocument_laws database "/" firstUpright secondUpright
  obtain ⟨left, right, first, second, swaps, -⟩ := swap apart
  obtain ⟨one, other, here, there, -, agree⟩ := commute "/b" (by decide) true false
  exact ⟨firstUpright, secondUpright, apart, by decide, ⟨left, right, first, second, swaps⟩,
    one, other, here, there, agree⟩

end Database

end CallTrace
