import CallTrace.Database.Table
import Mathlib.Data.List.Basic
import Mathlib.Data.List.Nodup
import Mathlib.Data.List.Sort

/-!
# Tables as lists of entries

Seen from one workspace a table is a list of entries, each a number with its columns. Writing
upserts this list: a known number keeps its place and a new one goes to the end. Neither writing
nor clearing is seen from any other workspace.
-/

namespace CallTrace

/-! ## Upserting a list -/

section Upsert

variable {α β : Type} (key : α → Int64)

/-- Put an entry in the place of the first one with its key, or at the end if there is none. -/
def upsert (entry : α) : List α → List α
  | [] => [entry]
  | first :: rest => if key first = key entry then entry :: rest else first :: upsert entry rest

variable {key}

theorem upsert_of_not_mem {entry : α} {entries : List α} (fresh : key entry ∉ entries.map key) :
    upsert key entry entries = entries ++ [entry] := by
  induction entries with
  | nil => rfl
  | cons first rest ih =>
      simp only [List.map_cons, List.mem_cons, not_or] at fresh
      simp [upsert, Ne.symm fresh.1, ih fresh.2]

theorem upsert_of_mem {entry : α} {entries : List α} (distinct : (entries.map key).Nodup)
    (known : key entry ∈ entries.map key) :
    upsert key entry entries =
      entries.map fun old => if key old = key entry then entry else old := by
  induction entries with
  | nil => simp at known
  | cons first rest ih =>
      simp only [List.map_cons, List.nodup_cons] at distinct
      by_cases same : key first = key entry
      · have absent : ∀ old ∈ rest, key old ≠ key entry := fun old member equal =>
          distinct.1 (same ▸ equal ▸ List.mem_map_of_mem member)
        have unchanged :
            rest.map (fun old => if key old = key entry then entry else old) = rest := by
          conv_rhs => rw [← List.map_id rest]
          exact List.map_congr_left fun old member => by simp [absent old member]
        simp [upsert, same, unchanged]
      · have later : key entry ∈ rest.map key := by
          simpa [Ne.symm same] using known
        simp [upsert, same, ih distinct.2 later]

theorem map_key_upsert (entry : α) (entries : List α) :
    (upsert key entry entries).map key =
      if key entry ∈ entries.map key then entries.map key
      else entries.map key ++ [key entry] := by
  induction entries with
  | nil => rfl
  | cons first rest ih =>
      by_cases same : key first = key entry
      · simp [upsert, same]
      · simp only [upsert, same, if_false, List.map_cons, ih, List.mem_cons,
          Ne.symm same, false_or]
        split <;> rfl

theorem nodup_map_key_upsert {entry : α} {entries : List α}
    (distinct : (entries.map key).Nodup) : ((upsert key entry entries).map key).Nodup := by
  rw [map_key_upsert]
  split
  · exact distinct
  · rename_i fresh
    exact distinct.append (List.nodup_singleton _) (by simpa using fresh)

theorem mem_of_mem_upsert {entry other : α} {entries : List α}
    (member : other ∈ upsert key entry entries) : other = entry ∨ other ∈ entries := by
  induction entries with
  | nil => exact Or.inl (List.mem_singleton.mp member)
  | cons first rest ih =>
      rw [upsert] at member
      split at member
      · rcases List.mem_cons.mp member with replaced | old
        · exact Or.inl replaced
        · exact Or.inr (List.mem_cons_of_mem first old)
      · rcases List.mem_cons.mp member with rfl | later
        · exact Or.inr List.mem_cons_self
        · exact (ih later).imp_right (List.mem_cons_of_mem first)

theorem map_upsert (other : β → Int64) (image : α → β)
    (keeps : ∀ entry, other (image entry) = key entry) (entry : α) (entries : List α) :
    (upsert key entry entries).map image = upsert other (image entry) (entries.map image) := by
  induction entries with
  | nil => rfl
  | cons first rest ih =>
      by_cases same : key first = key entry <;> simp [upsert, keeps, same, ih]

theorem foldl_upsert_of_nodup (entries held : List α)
    (distinct : ((held ++ entries).map key).Nodup) :
    entries.foldl (fun kept entry => upsert key entry kept) held = held ++ entries := by
  induction entries generalizing held with
  | nil => simp
  | cons entry rest ih =>
      have fresh : key entry ∉ held.map key := by
        rw [List.map_append, List.map_cons] at distinct
        exact fun member => (List.disjoint_of_nodup_append distinct) member List.mem_cons_self
      have moved : held ++ entry :: rest = held ++ [entry] ++ rest := by simp
      rw [List.foldl_cons, upsert_of_not_mem fresh, ih _ (moved ▸ distinct), moved]

end Upsert

/-! ## Tables -/

namespace Table

variable {α : Type}

/-- The rows of a workspace, in the order in which they are stored. -/
def rowsOf (table : Table α) (workspace : String) : List (Row α) :=
  table.rows.filter fun row => row.workspace == workspace

/-- The numbers of a row and its columns. -/
def entryOf (row : Row α) : Int64 × α :=
  (row.id, row.columns)

/-- What a workspace holds, in the order in which it is stored. -/
def entries (table : Table α) (workspace : String) : List (Int64 × α) :=
  (table.rowsOf workspace).map entryOf

/-- Seen from a workspace the rows are stored in the order of their sequence numbers, and no two
have the same number. -/
structure IsOrderly (table : Table α) (workspace : String) : Prop where
  /-- Sequence numbers increase. -/
  increasing : (table.rowsOf workspace).Pairwise fun left right => left.seq < right.seq
  /-- Numbers are distinct. -/
  distinct : ((table.entries workspace).map Prod.fst).Nodup

theorem rowsOf_of_isEmpty {table : Table α} (isEmpty : table.rows = []) (workspace : String) :
    table.rowsOf workspace = [] := by
  rw [rowsOf, isEmpty, List.filter_nil]

theorem entries_of_isEmpty {table : Table α} (isEmpty : table.rows = []) (workspace : String) :
    table.entries workspace = [] := by
  rw [entries, rowsOf_of_isEmpty isEmpty, List.map_nil]

theorem isOrderly_of_isEmpty {table : Table α} (isEmpty : table.rows = []) (workspace : String) :
    table.IsOrderly workspace where
  increasing := by
    rw [rowsOf_of_isEmpty isEmpty]
    exact .nil
  distinct := by
    rw [entries_of_isEmpty isEmpty]
    exact .nil

private theorem le_foldl_max (rows : List (Row α)) (bound : Nat) :
    bound ≤ rows.foldl (fun greatest row => max greatest row.seq) bound := by
  induction rows generalizing bound with
  | nil => exact le_refl bound
  | cons row rest ih => exact (le_max_left _ _).trans (ih _)

private theorem seq_le_foldl_max {rows : List (Row α)} {row : Row α} (member : row ∈ rows)
    (bound : Nat) : row.seq ≤ rows.foldl (fun greatest row => max greatest row.seq) bound := by
  induction rows generalizing bound with
  | nil => simp at member
  | cons first rest ih =>
      rw [List.foldl_cons]
      rcases List.mem_cons.mp member with rfl | later
      · exact (le_max_right _ _).trans (le_foldl_max _ _)
      · exact ih later _

/-- A new row comes after all rows that there are. -/
theorem seq_lt_nextSeq {table : Table α} {row : Row α} (member : row ∈ table.rows) :
    row.seq < table.nextSeq :=
  Nat.lt_succ_of_le (seq_le_foldl_max member 0)

theorem mem_keys_iff (table : Table α) (workspace : String) (id : Int64) :
    id ∈ (table.entries workspace).map Prod.fst ↔
      table.rows.any (fun row => row.isAt workspace id) = true := by
  simp only [entries, rowsOf, entryOf, List.map_map, List.mem_map, List.mem_filter,
    Function.comp_apply, List.any_eq_true, Row.isAt, Bool.and_eq_true, beq_iff_eq]
  constructor
  · rintro ⟨row, ⟨member, place⟩, number⟩
    exact ⟨row, member, place, number⟩
  · rintro ⟨row, member, place, number⟩
    exact ⟨row, ⟨member, place⟩, number⟩

theorem rowsOf_map_overwrite (table : Table α) (workspace other : String) (id : Int64)
    (columns : α) :
    (table.rows.map fun row => if row.isAt workspace id then { row with columns } else row).filter
        (fun row => row.workspace == other) =
      (table.rowsOf other).map fun row =>
        if row.isAt workspace id then { row with columns } else row := by
  rw [rowsOf, List.filter_map]
  congr 1
  apply List.filter_congr
  intro row _
  simp only [Function.comp_apply]
  split <;> rfl

theorem rowsOf_write_of_ne {workspace other : String} (table : Table α) (id : Int64)
    (columns : α) (apart : other ≠ workspace) :
    (table.write workspace id columns).rowsOf other = table.rowsOf other := by
  rw [write]
  split
  · rw [rowsOf, rowsOf_map_overwrite]
    conv_rhs => rw [← List.map_id (table.rowsOf other)]
    apply List.map_congr_left
    intro row member
    have place : row.workspace = other := by simpa using (List.mem_filter.mp member).2
    simp [Row.isAt, place, apart]
  · simp [rowsOf, Ne.symm apart]

private theorem entries_write_self {table : Table α} {workspace : String}
    (orderly : table.IsOrderly workspace) (id : Int64) (columns : α) :
    (table.write workspace id columns).entries workspace =
      upsert Prod.fst (id, columns) (table.entries workspace) := by
  by_cases known : table.rows.any fun row => row.isAt workspace id
  · rw [upsert_of_mem orderly.distinct ((table.mem_keys_iff workspace id).mpr known), write,
      if_pos known, entries, rowsOf, rowsOf_map_overwrite, entries, List.map_map, List.map_map]
    apply List.map_congr_left
    intro row member
    have place : row.workspace = workspace := by simpa using (List.mem_filter.mp member).2
    by_cases same : row.id = id <;> simp [Row.isAt, entryOf, place, same]
  · have fresh : id ∉ (table.entries workspace).map Prod.fst := fun member =>
      known ((table.mem_keys_iff workspace id).mp member)
    rw [upsert_of_not_mem (by simpa using fresh), write, if_neg known]
    simp [entries, rowsOf, entryOf]

/-- Writing upserts what its workspace holds and nothing else. -/
theorem entries_write {table : Table α} {other : String} (orderly : table.IsOrderly other)
    (workspace : String) (id : Int64) (columns : α) :
    (table.write workspace id columns).entries other =
      if other = workspace then upsert Prod.fst (id, columns) (table.entries other)
      else table.entries other := by
  split
  · rename_i same
    subst same
    exact entries_write_self orderly id columns
  · rename_i apart
    rw [entries, rowsOf_write_of_ne table id columns apart, entries]

/-- A table stays orderly when a row is written, in whatever workspace. -/
theorem IsOrderly.write {table : Table α} {other : String} (orderly : table.IsOrderly other)
    (workspace : String) (id : Int64) (columns : α) :
    (table.write workspace id columns).IsOrderly other where
  increasing := by
    by_cases same : other = workspace
    · subst same
      rw [Table.write]
      split
      · rw [rowsOf, rowsOf_map_overwrite, List.pairwise_map]
        apply orderly.increasing.imp
        intro left right before
        split <;> split <;> exact before
      · rw [rowsOf, List.filter_append]
        simp only [BEq.rfl, List.filter_cons_of_pos, List.filter_nil, List.pairwise_append,
          List.pairwise_singleton, List.mem_singleton, forall_eq, true_and]
        refine ⟨orderly.increasing, fun row member => ?_⟩
        exact seq_lt_nextSeq (List.mem_filter.mp member).1
    · rw [rowsOf_write_of_ne table id columns same]
      exact orderly.increasing
  distinct := by
    rw [entries_write orderly]
    split
    · exact nodup_map_key_upsert orderly.distinct
    · exact orderly.distinct

/-- Clearing a workspace leaves nothing of it and all of every other one. -/
theorem rowsOf_clear (table : Table α) (workspace other : String) :
    (table.clear workspace).rowsOf other =
      if other = workspace then [] else table.rowsOf other := by
  rw [rowsOf, clear, List.filter_filter]
  split
  · rename_i same
    apply List.filter_eq_nil_iff.mpr
    intro row _
    simp [same]
  · rename_i apart
    apply List.filter_congr
    intro row _
    by_cases place : row.workspace = other <;> simp [place, apart]

theorem entries_clear (table : Table α) (workspace other : String) :
    (table.clear workspace).entries other =
      if other = workspace then [] else table.entries other := by
  rw [entries, rowsOf_clear]
  split <;> rfl

theorem isOrderly_clear (table : Table α) (workspace : String) :
    (table.clear workspace).IsOrderly workspace where
  increasing := by simp [rowsOf_clear]
  distinct := by simp [entries_clear]

theorem IsOrderly.clear {table : Table α} {other : String} (orderly : table.IsOrderly other)
    (workspace : String) : (table.clear workspace).IsOrderly other where
  increasing := by
    rw [rowsOf_clear]
    split
    · exact List.Pairwise.nil
    · exact orderly.increasing
  distinct := by
    rw [entries_clear]
    split
    · exact List.nodup_nil
    · exact orderly.distinct

/-- Rows are read as they are stored: sorting them changes nothing. -/
theorem map_entryOf_select {table : Table α} {workspace : String}
    (orderly : table.IsOrderly workspace) (condition : α → Bool) :
    (table.select workspace fun row => condition row.columns).map entryOf =
      (table.entries workspace).filter fun entry => condition entry.2 := by
  have chosen : (table.rows.filter fun row =>
      row.workspace == workspace && condition row.columns) =
        (table.rowsOf workspace).filter fun row => condition row.columns := by
    rw [rowsOf, List.filter_filter]
    exact List.filter_congr fun row _ => Bool.and_comm _ _
  have sorted : ((table.rowsOf workspace).filter fun row => condition row.columns).Pairwise
      fun left right => decide (left.seq ≤ right.seq) = true :=
    (orderly.increasing.filter _).imp fun before => decide_eq_true (le_of_lt before)
  rw [select, chosen, List.mergeSort_of_pairwise sorted, entries, List.filter_map]
  rfl

end Table

end CallTrace
