import CallTrace.Index.Snapshot

/-!
# Targets

The symbol that an identifier most likely refers to. A number that the identifier gives decides, if
there is such a symbol. Otherwise the candidates are the symbols of its name up to case, and the
first of them is taken that lies in the same file, or else that is of a kind that fits the use, or
else the first of all.
-/

namespace CallTrace

/-- Whether symbols of a kind fit an identifier's use of a name. -/
def IdentifierKind.fits : IdentifierKind → SymbolKind → Bool
  | .call, kind => kind.callable
  | .memberAccess, kind => kind.storesMember
  | .other _, _ => false

/-- The most likely one of the symbols that have the identifier's name. -/
def Identifier.choose (identifier : Identifier) (candidates : List Symbol) : Option Symbol :=
  (candidates.find? fun symbol => symbol.filePath == identifier.filePath).or
    ((candidates.find? fun symbol => identifier.kind.fits symbol.kind).or candidates.head?)

namespace Snapshot

/-- The symbol around an identifier. -/
def container (snapshot : Snapshot) (identifier : Identifier) : Option Symbol :=
  identifier.containerId.bind snapshot.get?

/-- The symbol that an identifier most likely refers to. -/
def target (snapshot : Snapshot) (identifier : Identifier) : Option Symbol :=
  (identifier.targetId.bind snapshot.get?).or
    (identifier.choose (snapshot.named identifier.name))

end Snapshot

end CallTrace
