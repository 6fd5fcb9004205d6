import CallTrace.Index.Implementation
import CallTrace.Index.Target
import Mathlib.Data.List.Nodup

/-!
# What is found in a snapshot

The indexes of a snapshot lead to what a search through its list of symbols would find. A number is
that of the first symbol that has it, and the symbols of a name are those of the list, in the order
of their numbers.
-/

namespace CallTrace

namespace Snapshot

/-! ## Numbers -/

/-- The first position of a number stays, however many follow. -/
private theorem getElem?_foldl_insertIfNew (placed : List (Symbol × Nat))
    (index : Std.HashMap Int64 Nat) (id : Int64) :
    (placed.foldl (fun index entry => index.insertIfNew entry.1.id entry.2) index)[id]? =
      index[id]?.or ((placed.find? fun entry => entry.1.id == id).map Prod.snd) := by
  induction placed generalizing index with
  | nil => simp
  | cons entry rest ih =>
      rw [List.foldl_cons, ih, Std.HashMap.getElem?_insertIfNew]
      by_cases same : entry.1.id = id
      · subst same
        cases known : index[entry.1.id]? with
        | none =>
            have isNew : entry.1.id ∉ index := by
              rw [Std.HashMap.mem_iff_isSome_getElem?, known]
              simp
            simp [isNew]
        | some position =>
            have isOld : entry.1.id ∈ index := by
              rw [Std.HashMap.mem_iff_isSome_getElem?, known]
              rfl
            simp [isOld]
      · simp [same]

theorem getElem?_indexById (placed : List (Symbol × Nat)) (id : Int64) :
    (indexById placed)[id]? = (placed.find? fun entry => entry.1.id == id).map Prod.snd := by
  rw [indexById, getElem?_foldl_insertIfNew, Std.HashMap.getElem?_empty, Option.none_or]

theorem find?_zipIdx (symbols : List Symbol) (condition : Symbol → Bool) :
    ((symbols.zipIdx.find? fun entry => condition entry.1).bind fun entry =>
      symbols[entry.2]?) = symbols.find? condition := by
  have firsts : symbols.find? condition =
      (symbols.zipIdx.find? fun entry => condition entry.1).map Prod.fst := by
    calc symbols.find? condition
      _ = (symbols.zipIdx.map Prod.fst).find? condition := by rw [List.zipIdx_map_fst]
      _ = _ := List.find?_map
  rw [firsts]
  cases found : symbols.zipIdx.find? fun entry => condition entry.1 with
  | none => rfl
  | some entry =>
      exact List.mem_zipIdx_iff_getElem?.mp (List.mem_of_find?_eq_some found)

/-- A number leads to the first symbol that has it. -/
theorem get?_ofList (symbols : List Symbol) (id : Int64) :
    (ofList symbols).get? id = symbols.find? fun symbol => symbol.id == id := by
  rw [← find?_zipIdx]
  change ((indexById symbols.zipIdx)[id]?.bind fun position => symbols.toArray[position]?) = _
  rw [getElem?_indexById, Option.bind_map]
  simp only [List.getElem?_toArray]
  rfl

theorem mem_of_get?_ofList {symbols : List Symbol} {id : Int64} {symbol : Symbol}
    (found : (ofList symbols).get? id = some symbol) : symbol ∈ symbols := by
  rw [get?_ofList] at found
  exact List.mem_of_find?_eq_some found

theorem find?_id_eq_some_iff {symbols : List Symbol} (distinct : (symbols.map Symbol.id).Nodup)
    {id : Int64} {symbol : Symbol} :
    (symbols.find? fun candidate => candidate.id == id) = some symbol ↔
      symbol ∈ symbols ∧ symbol.id = id := by
  constructor
  · intro found
    exact ⟨List.mem_of_find?_eq_some found, by simpa using List.find?_some found⟩
  · rintro ⟨isListed, rfl⟩
    cases found : symbols.find? fun candidate => candidate.id == symbol.id with
    | none => exact absurd (List.find?_eq_none.mp found symbol isListed) (by simp)
    | some first =>
        have sameId : first.id = symbol.id := by simpa using List.find?_some found
        have firstListed := List.mem_of_find?_eq_some found
        rw [List.inj_on_of_nodup_map distinct firstListed isListed sameId]

/-! ## Names -/

theorem getD_indexByName (placed : List (Symbol × Nat)) (key : String) :
    (indexByName placed).getD key [] =
      (placed.filter fun entry => Text.lowercase entry.1.name == key).map Prod.snd := by
  induction placed with
  | nil => simp [indexByName]
  | cons entry rest ih =>
      have step : indexByName (entry :: rest) =
          (indexByName rest).alter (Text.lowercase entry.1.name) fun later =>
            some (entry.2 :: later.getD []) := rfl
      rw [step, Std.HashMap.getD_alter]
      by_cases same : Text.lowercase entry.1.name = key
      · subst same
        rw [if_pos (beq_self_eq_true _), List.filter_cons_of_pos (by simp), List.map_cons, ← ih]
        simp [Std.HashMap.getD_eq_getD_getElem?]
      · have differs : (Text.lowercase entry.1.name == key) = false := beq_false_of_ne same
        rw [differs, List.filter_cons_of_neg (by simp [same]), ← ih]
        simp

/-- The symbols of a list by increasing number, in the order of the list where numbers are
equal. -/
def byIncreasingId (symbols : List Symbol) : List Symbol :=
  symbols.mergeSort fun left right => left.id ≤ right.id

/-- A name leads to all symbols that have it up to case. -/
theorem named_ofList (symbols : List Symbol) (name : String) :
    (ofList symbols).named name =
      (byIncreasingId symbols).filter fun symbol =>
        Text.lowercase symbol.name == Text.lowercase name := by
  let sorted := symbols.zipIdx.mergeSort fun left right => left.1.id ≤ right.1.id
  have firsts : sorted.map Prod.fst = byIncreasingId symbols := by
    calc sorted.map Prod.fst
      _ = byIncreasingId (symbols.zipIdx.map Prod.fst) := List.map_mergeSort fun _ _ _ _ => rfl
      _ = byIncreasingId symbols := by rw [List.zipIdx_map_fst]
  have placed : ∀ entry ∈ sorted, symbols[entry.2]? = some entry.1 := by
    intro entry member
    exact List.mem_zipIdx_iff_getElem?.mp (List.mem_mergeSort.mp member)
  change ((indexByName sorted).getD (Text.lowercase name) []).filterMap
    (fun position => symbols.toArray[position]?) = _
  rw [getD_indexByName, List.filterMap_map, ← firsts, List.filter_map, ← List.filterMap_eq_map]
  refine List.filterMap_congr fun entry member => ?_
  simpa using placed entry (List.mem_of_mem_filter member)

/-- A name leads to all symbols that have it, exactly or up to case. -/
theorem matching_ofList (symbols : List Symbol) (name : String) (caseSensitive : Bool) :
    (ofList symbols).matching name caseSensitive =
      (byIncreasingId symbols).filter fun symbol =>
        Text.namesMatch symbol.name name caseSensitive := by
  rw [matching]
  cases caseSensitive with
  | true =>
      rw [if_pos rfl, named_ofList, List.filter_filter]
      apply List.filter_congr
      intro symbol _
      by_cases same : symbol.name = name
      · simp [Text.namesMatch, same]
      · simp [Text.namesMatch, Text.nameKey, same]
  | false =>
      rw [if_neg Bool.false_ne_true, named_ofList]
      rfl

theorem mem_matching_ofList {symbols : List Symbol} {name : String} {caseSensitive : Bool}
    {symbol : Symbol} :
    symbol ∈ (ofList symbols).matching name caseSensitive ↔
      symbol ∈ symbols ∧ Text.namesMatch symbol.name name caseSensitive = true := by
  rw [matching_ofList, List.mem_filter, byIncreasingId, List.mem_mergeSort]

theorem mem_matching_self {symbols : List Symbol} {symbol : Symbol} (isListed : symbol ∈ symbols)
    (caseSensitive : Bool) :
    symbol ∈ (ofList symbols).matching symbol.name caseSensitive :=
  mem_matching_ofList.mpr ⟨isListed, beq_self_eq_true _⟩

end Snapshot

/-! ## Implementations -/

namespace Symbol

theorem foldl_longer_mem (rest : List Symbol) (first : Symbol) :
    rest.foldl longer first ∈ first :: rest := by
  induction rest generalizing first with
  | nil => exact .head _
  | cons second rest ih =>
      rw [List.foldl_cons]
      rcases List.mem_cons.mp (ih (first.longer second)) with isLonger | isLater
      · rw [isLonger, longer]
        split <;> simp
      · exact .tail _ (.tail _ isLater)

theorem mem_of_longest {candidates : List Symbol} {symbol : Symbol}
    (isLongest : longest candidates = some symbol) : symbol ∈ candidates := by
  cases candidates with
  | nil => cases isLongest
  | cons first rest =>
      cases isLongest
      exact foldl_longer_mem rest first

theorem mem_of_bestImplementation {candidates : List Symbol} {symbol : Symbol}
    (isBest : bestImplementation candidates = some symbol) : symbol ∈ candidates := by
  unfold bestImplementation at isBest
  split at isBest
  · cases isBest
    exact .head _
  · split at isBest
    · rename_i isLongest
      split at isBest
      · cases isBest
        exact List.mem_of_mem_filter (mem_of_longest isLongest)
      · exact mem_of_longest isBest
    · exact mem_of_longest isBest

theorem exists_bestImplementation {candidates : List Symbol} (nonempty : candidates ≠ []) :
    ∃ symbol, bestImplementation candidates = some symbol := by
  obtain ⟨first, rest, rfl⟩ := List.exists_cons_of_ne_nil nonempty
  unfold bestImplementation
  split
  · exact ⟨_, rfl⟩
  · split
    · split
      · exact ⟨_, rfl⟩
      · exact ⟨_, rfl⟩
    · exact ⟨_, rfl⟩

end Symbol

/-! ## Symbols around identifiers and behind them -/

theorem Identifier.mem_of_choose {identifier : Identifier} {candidates : List Symbol}
    {symbol : Symbol} (chosen : identifier.choose candidates = some symbol) :
    symbol ∈ candidates := by
  rw [choose, Option.or_eq_some_iff, Option.or_eq_some_iff] at chosen
  rcases chosen with sameFile | ⟨-, fitting | ⟨-, first⟩⟩
  · exact List.mem_of_find?_eq_some sameFile
  · exact List.mem_of_find?_eq_some fitting
  · exact List.mem_of_mem_head? first

theorem Identifier.exists_choose (identifier : Identifier) {candidates : List Symbol}
    (nonempty : candidates ≠ []) : ∃ symbol, identifier.choose candidates = some symbol := by
  obtain ⟨first, rest, rfl⟩ := List.exists_cons_of_ne_nil nonempty
  rw [choose]
  cases (first :: rest).find? fun symbol => symbol.filePath == identifier.filePath with
  | some symbol => exact ⟨symbol, rfl⟩
  | none =>
      cases (first :: rest).find? fun symbol => identifier.kind.fits symbol.kind with
      | some symbol => exact ⟨symbol, rfl⟩
      | none => exact ⟨first, rfl⟩

namespace Snapshot

theorem container_ofList (symbols : List Symbol) (identifier : Identifier) :
    (ofList symbols).container identifier =
      identifier.containerId.bind fun id => symbols.find? fun symbol => symbol.id == id := by
  rw [container]
  exact congrArg _ (funext (get?_ofList symbols))

theorem mem_of_target_ofList {symbols : List Symbol} {identifier : Identifier} {symbol : Symbol}
    (refers : (ofList symbols).target identifier = some symbol) : symbol ∈ symbols := by
  rw [target, Option.or_eq_some_iff] at refers
  rcases refers with given | ⟨-, chosen⟩
  · obtain ⟨id, -, found⟩ := Option.bind_eq_some_iff.mp given
    exact mem_of_get?_ofList found
  · have isNamed := Identifier.mem_of_choose chosen
    rw [named_ofList] at isNamed
    exact List.mem_mergeSort.mp (List.mem_of_mem_filter isNamed)

end Snapshot

end CallTrace
