import CallTrace.Proofs.Snapshot
import Mathlib.Data.Prod.Lex

/-!
# Ranks of symbols

An identifier that gives no number of a known symbol refers to the symbol of its name that comes
first by rank, number and position. A symbol in the file of the identifier has the best rank, then
one of a kind that fits the use of the name. The steps by which the symbol is chosen from the
symbols of the name, which stand in the order of their numbers, amount to this one order.
-/

namespace CallTrace

namespace Identifier

/-- The symbol is of a kind that the identifier can use as it does. -/
def Suits (identifier : Identifier) (symbol : Symbol) : Prop :=
  identifier.kind = .call ∧ (symbol.kind = .function ∨ symbol.kind = .method) ∨
    identifier.kind = .memberAccess ∧ (symbol.kind = .field ∨ symbol.kind = .property)

instance (identifier : Identifier) (symbol : Symbol) : Decidable (identifier.Suits symbol) :=
  inferInstanceAs (Decidable (_ ∨ _))

/-- How well a symbol goes with an identifier; the least rank is the best. -/
def rank (identifier : Identifier) (symbol : Symbol) : Nat :=
  if symbol.filePath = identifier.filePath then 0 else if identifier.Suits symbol then 1 else 2

/-- What the symbols of a list are compared by, as candidates for an identifier: their rank, then
their number, then their position. -/
def preference (identifier : Identifier) (symbol : Symbol) (position : Nat) : Nat ×ₗ Int ×ₗ Nat :=
  toLex (identifier.rank symbol, toLex (symbol.id.toInt, position))

/-- The symbol at a position has the name of an identifier, and of all symbols that have it, it is
the one to be preferred. -/
structure Prefers (identifier : Identifier) (symbols : List Symbol) (best : Symbol)
    (position : Nat) : Prop where
  /-- The symbol is at the position. -/
  isThere : symbols[position]? = some best
  /-- It has the name, up to case. -/
  isNamed : Text.lowercase best.name = Text.lowercase identifier.name
  /-- No symbol of the name comes before it. -/
  isLeast : ∀ (other : Symbol) (place : Nat), symbols[place]? = some other →
    Text.lowercase other.name = Text.lowercase identifier.name →
      identifier.preference best position ≤ identifier.preference other place

/-- What an identifier refers to in a list of symbols. -/
inductive RefersTo (identifier : Identifier) (symbols : List Symbol) : Option Symbol → Prop where
  /-- The first symbol with the number that the identifier gives. -/
  | known {id : Int64} {symbol : Symbol} (gives : identifier.targetId = some id)
      (isFirst : symbols.find? (fun candidate => candidate.id = id) = some symbol) :
      RefersTo identifier symbols (some symbol)
  /-- Without such a symbol, the preferred one of those that have its name. -/
  | best {symbol : Symbol} {position : Nat}
      (isUnknown : ∀ symbol ∈ symbols, identifier.targetId ≠ some symbol.id)
      (prefers : identifier.Prefers symbols symbol position) :
      RefersTo identifier symbols (some symbol)
  /-- Nothing, where no symbol has its name either. -/
  | nothing (isUnknown : ∀ symbol ∈ symbols, identifier.targetId ≠ some symbol.id)
      (isUnnamed : ∀ symbol ∈ symbols,
        Text.lowercase symbol.name ≠ Text.lowercase identifier.name) :
      RefersTo identifier symbols none

/-! ## One preferred symbol -/

variable {identifier : Identifier} {symbols : List Symbol}

theorem Prefers.mem {best : Symbol} {position : Nat}
    (prefers : identifier.Prefers symbols best position) : best ∈ symbols :=
  List.mem_of_getElem? prefers.isThere

/-- No two symbols are preferred, because no two have the same position. -/
theorem Prefers.unique {best other : Symbol} {position place : Nat}
    (first : identifier.Prefers symbols best position)
    (second : identifier.Prefers symbols other place) : best = other := by
  have same : identifier.preference best position = identifier.preference other place :=
    le_antisymm (first.isLeast other place second.isThere second.isNamed)
      (second.isLeast best position first.isThere first.isNamed)
  obtain ⟨-, sameRest⟩ := Prod.mk.inj (toLex.injective same)
  obtain ⟨-, rfl⟩ := Prod.mk.inj (toLex.injective sameRest)
  exact Option.some.inj (first.isThere.symm.trans second.isThere)

private theorem exists_known {id : Int64} {symbol : Symbol}
    (gives : identifier.targetId = some id)
    (isFirst : symbols.find? (fun candidate => candidate.id = id) = some symbol) :
    ∃ symbol ∈ symbols, identifier.targetId = some symbol.id := by
  have sameId : symbol.id = id := by simpa using List.find?_some isFirst
  exact ⟨symbol, List.mem_of_find?_eq_some isFirst, by rw [gives, sameId]⟩

theorem RefersTo.unique {first second : Option Symbol} (left : identifier.RefersTo symbols first)
    (right : identifier.RefersTo symbols second) : first = second := by
  have notBoth {id : Int64} {symbol : Symbol} (gives : identifier.targetId = some id)
      (isFirst : symbols.find? (fun candidate => candidate.id = id) = some symbol)
      (isUnknown : ∀ symbol ∈ symbols, identifier.targetId ≠ some symbol.id) : False := by
    obtain ⟨symbol, isListed, isKnown⟩ := exists_known gives isFirst
    exact isUnknown symbol isListed isKnown
  cases left with
  | known gives isFirst =>
      cases right with
      | known givesToo isFirstToo =>
          obtain rfl : _ = _ := Option.some.inj (gives.symm.trans givesToo)
          exact isFirst.symm.trans isFirstToo
      | best isUnknown _ => exact (notBoth gives isFirst isUnknown).elim
      | nothing isUnknown _ => exact (notBoth gives isFirst isUnknown).elim
  | best isUnknown prefers =>
      cases right with
      | known gives isFirst => exact (notBoth gives isFirst isUnknown).elim
      | best _ prefersToo => exact congrArg some (prefers.unique prefersToo)
      | nothing _ isUnnamed => exact absurd prefers.isNamed (isUnnamed _ prefers.mem)
  | nothing isUnknown isUnnamed =>
      cases right with
      | known gives isFirst => exact (notBoth gives isFirst isUnknown).elim
      | best _ prefers => exact absurd prefers.isNamed (isUnnamed _ prefers.mem)
      | nothing _ _ => rfl

/-! ## The choice among candidates -/

theorem fits_eq_true_iff (symbol : Symbol) :
    identifier.kind.fits symbol.kind = true ↔ identifier.Suits symbol := by
  rw [Suits]
  cases identifier.kind <;> cases symbol.kind <;>
    simp [IdentifierKind.fits, SymbolKind.callable, SymbolKind.storesMember]

theorem rank_of_sameFile {symbol : Symbol} (same : symbol.filePath = identifier.filePath) :
    identifier.rank symbol = 0 :=
  if_pos same

theorem rank_of_otherFile {symbol : Symbol} (other : symbol.filePath ≠ identifier.filePath) :
    identifier.rank symbol = if identifier.Suits symbol then 1 else 2 :=
  if_neg other

end Identifier

namespace Snapshot

/-- One entry stands before another: its number is less, or it is the same and its position is
less. -/
def Precedes (first second : Symbol × Nat) : Prop :=
  toLex (first.1.id.toInt, first.2) ≤ toLex (second.1.id.toInt, second.2)

/-- The symbols of a list with their positions, by increasing number and, where numbers are equal,
by position. -/
def placedByIncreasingId (symbols : List Symbol) : List (Symbol × Nat) :=
  symbols.zipIdx.mergeSort (List.zipIdxLE fun left right => left.id ≤ right.id)

theorem map_fst_placedByIncreasingId (symbols : List Symbol) :
    (placedByIncreasingId symbols).map Prod.fst = byIncreasingId symbols :=
  List.mergeSort_zipIdx

theorem filter_byIncreasingId (symbols : List Symbol) (condition : Symbol → Bool) :
    (byIncreasingId symbols).filter condition =
      ((placedByIncreasingId symbols).filter fun entry => condition entry.1).map Prod.fst := by
  rw [← map_fst_placedByIncreasingId, List.filter_map]
  rfl

theorem mem_placedByIncreasingId {symbols : List Symbol} {entry : Symbol × Nat} :
    entry ∈ placedByIncreasingId symbols ↔ symbols[entry.2]? = some entry.1 := by
  rw [placedByIncreasingId, List.mem_mergeSort, List.mem_zipIdx_iff_getElem?]

theorem precedes_of_zipIdxLE {first second : Symbol × Nat}
    (le : List.zipIdxLE (fun left right => decide (left.id ≤ right.id)) first second = true) :
    Precedes first second := by
  rw [Precedes, Prod.Lex.toLex_le_toLex]
  simp only [List.zipIdxLE, decide_eq_true_eq, Int64.le_iff_toInt_le] at le
  split at le
  · split at le
    · exact .inr ⟨by simp only; omega, by simpa using le⟩
    · exact .inl (by simp only; omega)
  · cases le

/-- Where numbers are equal, sorting by number keeps the order of the list. -/
theorem pairwise_placedByIncreasingId (symbols : List Symbol) :
    (placedByIncreasingId symbols).Pairwise Precedes := by
  have sorted : (placedByIncreasingId symbols).Pairwise fun first second =>
      List.zipIdxLE (fun left right => left.id ≤ right.id) first second = true :=
    List.pairwise_mergeSort
      (List.zipIdxLE_trans fun first second third => by simpa using Int64.le_trans)
      (List.zipIdxLE_total fun first second => by simpa using Int64.le_total first.id second.id) _
  exact sorted.imp precedes_of_zipIdxLE

/-- The first entry for which a condition holds precedes all others for which it holds. -/
theorem precedes_of_find? {entries : List (Symbol × Nat)} (sorted : entries.Pairwise Precedes)
    {condition : Symbol × Nat → Bool} {first entry : Symbol × Nat}
    (isFirst : entries.find? condition = some first) (isListed : entry ∈ entries)
    (holds : condition entry = true) : Precedes first entry := by
  obtain ⟨-, before, after, rfl, noneBefore⟩ := List.find?_eq_some_iff_append.mp isFirst
  obtain ⟨-, fromFirst, -⟩ := List.pairwise_append.mp sorted
  rcases List.mem_append.mp isListed with isBefore | isFromFirst
  · have fails := noneBefore entry isBefore
    simp [holds] at fails
  · rcases List.mem_cons.mp isFromFirst with rfl | isAfter
    · exact le_refl _
    · exact List.rel_of_pairwise_cons fromFirst isAfter

end Snapshot

namespace Identifier

open Snapshot (Precedes precedes_of_find?)

variable {identifier : Identifier} {symbols : List Symbol} {entries : List (Symbol × Nat)}

theorem preference_le {first second : Symbol × Nat}
    (isBetter : identifier.rank first.1 < identifier.rank second.1 ∨
      identifier.rank first.1 = identifier.rank second.1 ∧ Precedes first second) :
    identifier.preference first.1 first.2 ≤ identifier.preference second.1 second.2 :=
  Prod.Lex.toLex_le_toLex.mpr isBetter

/-- The first of the entries of one rank is preferred when all others have a worse rank. -/
theorem preference_le_of_find? (sorted : entries.Pairwise Precedes)
    {condition : Symbol × Nat → Bool} {best : Nat}
    (equal : ∀ entry ∈ entries, condition entry = true → identifier.rank entry.1 = best)
    (worse : ∀ entry ∈ entries, condition entry = false → best < identifier.rank entry.1)
    {first entry : Symbol × Nat} (isFirst : entries.find? condition = some first)
    (isListed : entry ∈ entries) :
    identifier.preference first.1 first.2 ≤ identifier.preference entry.1 entry.2 := by
  have hasRank : identifier.rank first.1 = best :=
    equal first (List.mem_of_find?_eq_some isFirst) (List.find?_some isFirst)
  apply preference_le
  cases holds : condition entry with
  | false => exact .inl (hasRank.trans_lt (worse entry isListed holds))
  | true =>
      have sameRank := equal entry isListed holds
      exact .inr ⟨hasRank.trans sameRank.symm, precedes_of_find? sorted isFirst isListed holds⟩

theorem exists_preferred_of_find? (sorted : entries.Pairwise Precedes)
    {condition : Symbol × Nat → Bool} (rank : Nat)
    (equal : ∀ entry ∈ entries, condition entry = true → identifier.rank entry.1 = rank)
    (worse : ∀ entry ∈ entries, condition entry = false → rank < identifier.rank entry.1)
    {best : Symbol} (isFirst : (entries.find? condition).map Prod.fst = some best) :
    ∃ position, (best, position) ∈ entries ∧ ∀ entry ∈ entries,
      identifier.preference best position ≤ identifier.preference entry.1 entry.2 := by
  obtain ⟨⟨symbol, position⟩, found, rfl⟩ := Option.map_eq_some_iff.mp isFirst
  exact ⟨position, List.mem_of_find?_eq_some found, fun entry isListed =>
    preference_le_of_find? sorted equal worse found isListed⟩

/-- The steps of the choice come to the preferred one of entries that are in order. -/
theorem exists_preferred_of_choose (sorted : entries.Pairwise Precedes) {best : Symbol}
    (chosen : identifier.choose (entries.map Prod.fst) = some best) :
    ∃ position, (best, position) ∈ entries ∧ ∀ entry ∈ entries,
      identifier.preference best position ≤ identifier.preference entry.1 entry.2 := by
  rw [choose, List.find?_map, List.find?_map, Option.or_eq_some_iff, Option.or_eq_some_iff]
    at chosen
  -- Every step takes the first of the entries that have the best rank there is: 0, then 1, then 2.
  rcases chosen with sameFile | ⟨otherFile, fitting | ⟨unfit, first⟩⟩
  · refine exists_preferred_of_find? sorted 0 (fun entry _ same => ?_) (fun entry _ other => ?_)
      sameFile
    · exact rank_of_sameFile (by simpa using same)
    · rw [rank_of_otherFile (by simpa using other)]
      split <;> decide
  · have areOthers : ∀ entry ∈ entries, entry.1.filePath ≠ identifier.filePath := by
      simpa using otherFile
    refine exists_preferred_of_find? sorted 1 (fun entry isListed fits => ?_)
      (fun entry isListed unfit => ?_) fitting
    · rw [rank_of_otherFile (areOthers entry isListed),
        if_pos ((fits_eq_true_iff entry.1).mp fits)]
    · have isUnsuited : ¬identifier.Suits entry.1 := fun suits =>
        absurd ((fits_eq_true_iff entry.1).mpr suits) (by simpa using unfit)
      rw [rank_of_otherFile (areOthers entry isListed), if_neg isUnsuited]
      decide
  · have areOthers : ∀ entry ∈ entries, entry.1.filePath ≠ identifier.filePath := by
      simpa using otherFile
    have areUnsuited : ∀ entry ∈ entries, ¬identifier.Suits entry.1 := by
      simpa [fits_eq_true_iff] using unfit
    have isFirst : (entries.find? fun _ => true).map Prod.fst = some best := by
      rw [← first]
      cases entries <;> rfl
    refine exists_preferred_of_find? sorted 2 (fun entry isListed _ => ?_) (fun _ _ fails => ?_)
      isFirst
    · rw [rank_of_otherFile (areOthers entry isListed), if_neg (areUnsuited entry isListed)]
    · cases fails

end Identifier

namespace Snapshot

variable (symbols : List Symbol) (identifier : Identifier)

theorem named_ofList_eq_map (name : String) :
    (ofList symbols).named name =
      ((placedByIncreasingId symbols).filter fun entry =>
        Text.lowercase entry.1.name == Text.lowercase name).map Prod.fst := by
  rw [named_ofList, filter_byIncreasingId]

theorem target_refersTo :
    identifier.RefersTo symbols ((ofList symbols).target identifier) := by
  rw [target]
  cases given : identifier.targetId.bind (ofList symbols).get? with
  | some symbol =>
      obtain ⟨id, gives, isFirst⟩ := Option.bind_eq_some_iff.mp given
      rw [get?_ofList] at isFirst
      exact .known gives isFirst
  | none =>
      have isUnknown : ∀ symbol ∈ symbols, identifier.targetId ≠ some symbol.id := by
        intro symbol isListed gives
        rw [gives, Option.bind_some, get?_ofList] at given
        exact absurd (List.find?_eq_none.mp given symbol isListed) (by simp)
      rw [Option.none_or]
      cases chosen : identifier.choose ((ofList symbols).named identifier.name) with
      | none =>
          have isEmpty : (ofList symbols).named identifier.name = [] := by
            by_contra nonempty
            obtain ⟨symbol, isChosen⟩ := identifier.exists_choose nonempty
            rw [isChosen] at chosen
            cases chosen
          refine .nothing isUnknown fun symbol isListed same => ?_
          have isNamed : symbol ∈ (ofList symbols).matching identifier.name false :=
            mem_matching_ofList.mpr ⟨isListed, beq_iff_eq.mpr same⟩
          rw [matching, if_neg Bool.false_ne_true, isEmpty] at isNamed
          cases isNamed
      | some best =>
          rw [named_ofList_eq_map] at chosen
          obtain ⟨position, isEntry, isLeast⟩ := Identifier.exists_preferred_of_choose
            ((pairwise_placedByIncreasingId symbols).filter _) chosen
          obtain ⟨isPlaced, isNamed⟩ := List.mem_filter.mp isEntry
          refine .best isUnknown ⟨mem_placedByIncreasingId.mp isPlaced, by simpa using isNamed, ?_⟩
          intro other place isThere sameName
          exact isLeast (other, place) (List.mem_filter.mpr
            ⟨mem_placedByIncreasingId.mpr isThere, by simpa using sameName⟩)

/-- Whatever symbols are listed, in whatever order and with whatever numbers, an identifier refers
to the first symbol with the number that it gives, or else to the symbol of its name that is
preferred by rank, number and position, or else, if there is none, to nothing. -/
theorem target_ofList_eq_iff (found : Option Symbol) :
    (ofList symbols).target identifier = found ↔ identifier.RefersTo symbols found := by
  constructor
  · rintro rfl
    exact target_refersTo symbols identifier
  · exact (target_refersTo symbols identifier).unique

end Snapshot

end CallTrace
