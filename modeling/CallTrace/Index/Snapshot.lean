import CallTrace.Index.Symbol
import Std.Data.HashMap

/-!
# Snapshots

A snapshot holds the symbols of a workspace at one moment, with an index by number and an index by
name. The indexes hold positions in the list of symbols. A number stands for the first symbol that
has it; a name stands for all symbols that have it up to case, by increasing number, and in the
order of the list where numbers are equal.
-/

namespace CallTrace

/-- The symbols of a workspace, indexed by number and by name. -/
structure Snapshot where
  /-- The symbols, in store order. -/
  symbols : Array Symbol
  /-- The position of the first symbol with a number. -/
  byId : Std.HashMap Int64 Nat
  /-- The positions of the symbols with a name in lower case. -/
  byName : Std.HashMap String (List Nat)

namespace Snapshot

/-- Index positions by number: the first position of a number stays. -/
def indexById (placed : List (Symbol × Nat)) : Std.HashMap Int64 Nat :=
  placed.foldl (fun index entry => index.insertIfNew entry.1.id entry.2) ∅

/-- Index positions by name in lower case; the positions of a name are in the order of the list. -/
def indexByName (placed : List (Symbol × Nat)) : Std.HashMap String (List Nat) :=
  placed.foldr
    (fun entry index =>
      index.alter (Text.lowercase entry.1.name) fun later => some (entry.2 :: later.getD []))
    ∅

/-- The snapshot of a list of symbols. -/
def ofList (symbols : List Symbol) : Snapshot :=
  let placed := symbols.zipIdx
  { symbols := symbols.toArray
    byId := indexById placed
    byName := indexByName (placed.mergeSort fun left right => left.1.id ≤ right.1.id) }

/-- The first symbol with a number. -/
def get? (snapshot : Snapshot) (id : Int64) : Option Symbol := do
  let position ← snapshot.byId[id]?
  snapshot.symbols[position]?

/-- The symbols with a name up to case, by increasing number. -/
def named (snapshot : Snapshot) (name : String) : List Symbol :=
  (snapshot.byName.getD (Text.lowercase name) []).filterMap fun position =>
    snapshot.symbols[position]?

/-- The symbols with a name, exactly or up to case, by increasing number. -/
def matching (snapshot : Snapshot) (name : String) (caseSensitive : Bool) : List Symbol :=
  if caseSensitive then
    (snapshot.named name).filter fun symbol => Text.namesMatch symbol.name name true
  else
    snapshot.named name

end Snapshot

end CallTrace
