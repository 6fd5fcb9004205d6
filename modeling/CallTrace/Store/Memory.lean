import CallTrace.Index.Symbol
import CallTrace.Inquiry.Basic

/-!
# A store in memory

Symbols and identifiers of several workspaces, in the order in which they were added. Nothing is
ever replaced, so several symbols may have the same number.
-/

namespace CallTrace

/-- What symbols and identifiers answer to a query. -/
def IndexDocument.answer (document : IndexDocument) : (query : Query) → query.Answer
  | .allSymbols => document.symbols
  | .identifiersNamed name caseSensitive =>
    let key := Text.nameKey caseSensitive name
    document.identifiers.filter fun identifier => Text.nameKey caseSensitive identifier.name == key
  | .identifiersWithin containerId =>
    document.identifiers.filter fun identifier => identifier.containerId == some containerId

/-- Symbols and identifiers by workspace. -/
structure MemoryStore where
  /-- What a workspace holds, if anything was added to it. -/
  holdings : Std.HashMap String IndexDocument

namespace MemoryStore

/-- The store that holds nothing. -/
def empty : MemoryStore :=
  ⟨∅⟩

/-- What a workspace holds. -/
def holding (store : MemoryStore) (workspace : String) : IndexDocument :=
  store.holdings.getD workspace ⟨[], []⟩

/-- Change what a workspace holds. -/
def update (store : MemoryStore) (workspace : String) (change : IndexDocument → IndexDocument) :
    MemoryStore where
  holdings := store.holdings.alter workspace fun held => some (change (held.getD ⟨[], []⟩))

@[simp]
theorem holding_empty (workspace : String) : empty.holding workspace = ⟨[], []⟩ := by
  simp [holding, empty]

theorem holding_update (store : MemoryStore) (workspace other : String)
    (change : IndexDocument → IndexDocument) :
    (store.update workspace change).holding other =
      if other = workspace then change (store.holding workspace) else store.holding other := by
  by_cases same : other = workspace
  · subst same
    simp [holding, update, Std.HashMap.getD_eq_getD_getElem?]
  · simp [holding, update, Std.HashMap.getD_alter, same, Ne.symm same]

/-- Add a symbol to a workspace. -/
def addSymbol (store : MemoryStore) (workspace : String) (symbol : Symbol) : MemoryStore :=
  store.update workspace fun held => { held with symbols := held.symbols ++ [symbol] }

/-- Add an identifier to a workspace. -/
def addIdentifier (store : MemoryStore) (workspace : String) (identifier : Identifier) :
    MemoryStore :=
  store.update workspace fun held => { held with identifiers := held.identifiers ++ [identifier] }

/-- Add symbols and identifiers to a workspace, one by one. -/
def addDocument (store : MemoryStore) (workspace : String) (document : IndexDocument) :
    MemoryStore :=
  let withSymbols :=
    document.symbols.foldl (fun grown symbol => grown.addSymbol workspace symbol) store
  document.identifiers.foldl (fun grown identifier => grown.addIdentifier workspace identifier)
    withSymbols

/-- What the store answers to a query about a workspace. -/
def answer (store : MemoryStore) (workspace : String) (query : Query) : query.Answer :=
  (store.holding workspace).answer query

end MemoryStore

end CallTrace
