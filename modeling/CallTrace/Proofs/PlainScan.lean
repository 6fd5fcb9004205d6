import CallTrace.Proofs.Ranking

/-!
# Indexes and plain scans

What is looked up in the indexes of a snapshot is what a scan of its list of symbols would find,
also where numbers repeat and where names are the same up to case. The indexes hold positions of
symbols only, so that no look-up leads nowhere. A name in lower case stands for the positions that
a scan finds for it, each of them once, by number and then by position; a look-up with regard to
case goes through the same index, and misses nothing.
-/

namespace CallTrace

namespace Snapshot

/-! ## Scans -/

instance : DecidableRel Precedes := fun first second =>
  inferInstanceAs
    (Decidable (toLex (first.1.id.toInt, first.2) ≤ toLex (second.1.id.toInt, second.2)))

theorem Precedes.trans {first second third : Symbol × Nat} (before : Precedes first second)
    (after : Precedes second third) : Precedes first third :=
  le_trans before after

theorem precedes_total (first second : Symbol × Nat) :
    Precedes first second ∨ Precedes second first :=
  le_total _ _

/-- The symbols of a list that satisfy a condition, with their positions, sorted by number and,
where numbers are equal, by position. -/
def scan (symbols : List Symbol) (condition : Symbol → Bool) : List (Symbol × Nat) :=
  (symbols.zipIdx.filter fun entry => condition entry.1).mergeSort fun first second =>
    Precedes first second

/-- Entries are what a scan of a list for a condition finds. -/
structure IsScan (symbols : List Symbol) (condition : Symbol → Bool)
    (entries : List (Symbol × Nat)) : Prop where
  /-- Every symbol that satisfies the condition is found at its position, and nothing else. -/
  mem_iff : ∀ entry, entry ∈ entries ↔ symbols[entry.2]? = some entry.1 ∧ condition entry.1
  /-- No position is found twice. -/
  once : (entries.map Prod.snd).Nodup
  /-- The entries stand by increasing number and, where numbers are equal, by position. -/
  inOrder : entries.Pairwise Precedes

variable {symbols : List Symbol} {condition : Symbol → Bool} {entries others : List (Symbol × Nat)}

/-- Whatever picks the entries that satisfy a condition, and puts them in order, scans the list. -/
theorem isScan_of_perm
    (isPerm : entries.Perm (symbols.zipIdx.filter fun entry => condition entry.1))
    (inOrder : entries.Pairwise Precedes) : IsScan symbols condition entries where
  mem_iff entry := by
    rw [isPerm.mem_iff, List.mem_filter, List.mem_zipIdx_iff_getElem?]
  once := by
    have allOnce : (symbols.zipIdx.map Prod.snd).Nodup := by
      rw [List.zipIdx_map_snd]
      exact List.nodup_range'
    have pickedOnce := allOnce.sublist
      ((List.filter_sublist (p := fun entry => condition entry.1)).map Prod.snd)
    exact (isPerm.map Prod.snd).nodup_iff.mpr pickedOnce
  inOrder := inOrder

theorem isScan_scan (symbols : List Symbol) (condition : Symbol → Bool) :
    IsScan symbols condition (scan symbols condition) := by
  refine isScan_of_perm (List.mergeSort_perm _ _) ?_
  have sorted : (scan symbols condition).Pairwise fun first second =>
      decide (Precedes first second) = true :=
    List.pairwise_mergeSort
      (fun first second third => by simpa only [decide_eq_true_eq] using Precedes.trans)
      (fun first second => by simpa using precedes_total first second) _
  exact sorted.imp of_decide_eq_true

/-- Of two symbols with one number, the earlier is found first, however their names are written. -/
example : (scan [⟨7, "Run", .method, "a.cs", 1, 9⟩, ⟨5, "run", .method, "a.cs", 11, 19⟩,
    ⟨7, "RUN", .method, "b.cs", 1, 9⟩, ⟨5, "walk", .method, "b.cs", 11, 19⟩] fun symbol =>
      Text.namesMatch symbol.name "rUn" false).map Prod.snd = [1, 0, 2] := by cbv

/-- A scan finds one thing only, because no two entries have the same position. -/
theorem IsScan.unique (left : IsScan symbols condition entries)
    (right : IsScan symbols condition others) : entries = others := by
  have isPerm : entries.Perm others := by
    rw [List.perm_ext_iff_of_nodup left.once.of_map right.once.of_map]
    exact fun entry => (left.mem_iff entry).trans (right.mem_iff entry).symm
  refine isPerm.eq_of_pairwise (fun first second isFirst isSecond before after => ?_)
    left.inOrder right.inOrder
  have samePosition : first.2 = second.2 :=
    (Prod.mk.inj (toLex.injective (le_antisymm before after))).2
  obtain ⟨isThere, -⟩ := (left.mem_iff first).mp isFirst
  obtain ⟨isThereToo, -⟩ := (right.mem_iff second).mp isSecond
  rw [samePosition] at isThere
  exact Prod.ext (Option.some.inj (isThere.symm.trans isThereToo)) samePosition

/-- It makes no difference whether the symbols are put in order before or after they are picked. -/
theorem filter_placedByIncreasingId (symbols : List Symbol) (condition : Symbol → Bool) :
    ((placedByIncreasingId symbols).filter fun entry => condition entry.1) =
      scan symbols condition := by
  have picked := (List.mergeSort_perm symbols.zipIdx
    (List.zipIdxLE fun left right => left.id ≤ right.id)).filter fun entry => condition entry.1
  have inOrder := (pairwise_placedByIncreasingId symbols).filter fun entry => condition entry.1
  exact (isScan_of_perm picked inOrder).unique (isScan_scan symbols condition)

theorem filter_byIncreasingId_eq_scan (symbols : List Symbol) (condition : Symbol → Bool) :
    (byIncreasingId symbols).filter condition = (scan symbols condition).map Prod.fst := by
  rw [filter_byIncreasingId, filter_placedByIncreasingId]

/-! ## What the indexes hold -/

theorem zipIdx_zipIdx (symbols : List Symbol) :
    symbols.zipIdx.zipIdx = symbols.zipIdx.map fun entry => (entry, entry.2) := by
  refine List.ext_getElem (by simp) fun position _ _ => ?_
  simp

/-- Entries that are sorted by number alone keep the order of the list where numbers are equal. -/
theorem mergeSort_zipIdx_eq_placedByIncreasingId (symbols : List Symbol) :
    (symbols.zipIdx.mergeSort fun left right => left.1.id ≤ right.1.id) =
      placedByIncreasingId symbols := by
  let byNumber (left right : Symbol × Nat) : Bool := left.1.id ≤ right.1.id
  -- A stable sort is one that compares positions as well, and the entries carry theirs.
  have placedTwice : symbols.zipIdx.zipIdx.mergeSort (List.zipIdxLE byNumber) =
      (placedByIncreasingId symbols).map fun entry => (entry, entry.2) := by
    have sameOrder : ∀ left ∈ symbols.zipIdx, ∀ right ∈ symbols.zipIdx,
        List.zipIdxLE (fun left right => decide (left.id ≤ right.id)) left right =
          List.zipIdxLE byNumber (left, left.2) (right, right.2) := fun _ _ _ _ => rfl
    rw [zipIdx_zipIdx, placedByIncreasingId, List.map_mergeSort sameOrder]
  calc symbols.zipIdx.mergeSort byNumber
    _ = (symbols.zipIdx.zipIdx.mergeSort (List.zipIdxLE byNumber)).map Prod.fst :=
      List.mergeSort_zipIdx.symm
    _ = ((placedByIncreasingId symbols).map fun entry => (entry, entry.2)).map Prod.fst := by
      rw [placedTwice]
    _ = placedByIncreasingId symbols := by
      rw [List.map_map]
      exact List.map_id _

theorem getElem?_byId_ofList (symbols : List Symbol) (id : Int64) :
    (ofList symbols).byId[id]? = symbols.findIdx? fun symbol => symbol.id == id := by
  rw [List.findIdx?_eq_fst_find?_zipIdx]
  exact getElem?_indexById symbols.zipIdx id

theorem getD_byName_ofList (symbols : List Symbol) (key : String) :
    (ofList symbols).byName.getD key [] =
      (scan symbols fun symbol => Text.lowercase symbol.name == key).map Prod.snd := by
  change (indexByName (symbols.zipIdx.mergeSort _)).getD key [] = _
  rw [getD_indexByName, mergeSort_zipIdx_eq_placedByIncreasingId,
    filter_placedByIncreasingId symbols fun symbol => Text.lowercase symbol.name == key]

theorem lt_size_of_byId {id : Int64} {position : Nat}
    (isIndexed : (ofList symbols).byId[id]? = some position) :
    position < (ofList symbols).symbols.size := by
  rw [getElem?_byId_ofList, List.findIdx?_eq_some_iff_getElem] at isIndexed
  obtain ⟨isBelow, -⟩ := isIndexed
  exact isBelow

theorem lt_size_of_mem_byName {key : String} {position : Nat}
    (isIndexed : position ∈ (ofList symbols).byName.getD key []) :
    position < (ofList symbols).symbols.size := by
  rw [getD_byName_ofList] at isIndexed
  obtain ⟨entry, isFound, rfl⟩ := List.mem_map.mp isIndexed
  obtain ⟨isListed, -⟩ := ((isScan_scan symbols _).mem_iff entry).mp isFound
  exact (List.getElem?_eq_some_iff.mp isListed).1

/-! ## What is looked up -/

theorem map_some_get?_ofList (symbols : List Symbol) (id : Int64) :
    ((ofList symbols).get? id).map some =
      (ofList symbols).byId[id]?.map fun position => (ofList symbols).symbols[position]? := by
  rw [get?]
  cases isIndexed : (ofList symbols).byId[id]? with
  | none => rfl
  | some position =>
      change ((ofList symbols).symbols[position]?).map some = _
      rw [Option.map_some, Array.getElem?_eq_getElem (lt_size_of_byId isIndexed), Option.map_some]

theorem map_some_named_ofList (symbols : List Symbol) (name : String) :
    ((ofList symbols).named name).map some =
      ((ofList symbols).byName.getD (Text.lowercase name) []).map fun position =>
        (ofList symbols).symbols[position]? := by
  rw [named, List.map_filterMap_some_eq_filter_map_isSome, List.filter_eq_self]
  intro found isFound
  obtain ⟨position, isIndexed, rfl⟩ := List.mem_map.mp isFound
  rw [Array.getElem?_eq_getElem (lt_size_of_mem_byName isIndexed), Option.isSome_some]

/-- A snapshot finds by its indexes what scans of a list of symbols find. -/
structure AgreesWithScans (snapshot : Snapshot) (symbols : List Symbol) : Prop where
  /-- It holds the symbols of the list. -/
  symbols_eq : snapshot.symbols.toList = symbols
  /-- The index by number holds positions of symbols only. -/
  byId_lt : ∀ (id : Int64) (position : Nat), snapshot.byId[id]? = some position →
    position < snapshot.symbols.size
  /-- So does the index by name. -/
  byName_lt : ∀ (key : String) (positions : List Nat), snapshot.byName[key]? = some positions →
    ∀ position ∈ positions, position < snapshot.symbols.size
  /-- A number leads to the symbol at the position that the index has for it. -/
  get?_reads : ∀ id : Int64, (snapshot.get? id).map some =
    snapshot.byId[id]?.map fun position => snapshot.symbols[position]?
  /-- A name leads to the symbols at the positions that the index has for it, without a gap. -/
  named_reads : ∀ name, (snapshot.named name).map some =
    (snapshot.byName.getD (Text.lowercase name) []).map fun position => snapshot.symbols[position]?
  /-- A number leads to the first symbol of the list that has it. -/
  get?_eq : ∀ id, snapshot.get? id = symbols.find? fun symbol => symbol.id = id
  /-- A name leads to the symbols, and has the positions, that a scan for it in lower case finds. -/
  named_isScan : ∀ name, ∃ entries,
    IsScan symbols (fun symbol => Text.lowercase symbol.name = Text.lowercase name) entries ∧
      snapshot.named name = entries.map Prod.fst ∧
      snapshot.byName.getD (Text.lowercase name) [] = entries.map Prod.snd
  /-- With regard to case and without it, the symbols whose names match are found in that order. -/
  matching_eq : ∀ name caseSensitive, snapshot.matching name caseSensitive =
    (scan symbols fun symbol => Text.namesMatch symbol.name name caseSensitive).map Prod.fst

/-- Whatever symbols are listed, in whatever order and with whatever numbers and names, the indexes
of their snapshot lead to what scans of the list find. -/
theorem agreesWithScans_ofList (symbols : List Symbol) :
    (ofList symbols).AgreesWithScans symbols where
  symbols_eq := rfl
  byId_lt _ _ := lt_size_of_byId
  byName_lt := by
    intro key positions isIndexed position isThere
    have found : (ofList symbols).byName.getD key [] = positions := by
      rw [Std.HashMap.getD_eq_getD_getElem?, isIndexed, Option.getD_some]
    exact lt_size_of_mem_byName (found ▸ isThere)
  get?_reads := map_some_get?_ofList symbols
  named_reads := map_some_named_ofList symbols
  get?_eq := get?_ofList symbols
  named_isScan := by
    intro name
    refine ⟨_, isScan_scan symbols _, ?_, getD_byName_ofList symbols _⟩
    rw [named_ofList]
    exact filter_byIncreasingId_eq_scan symbols _
  matching_eq := by
    intro name caseSensitive
    rw [matching_ofList, filter_byIncreasingId_eq_scan]

end Snapshot

end CallTrace
