import CallTrace.Index.Kind

/-!
# Symbols and identifiers

A symbol is a declaration in a source file. An identifier is an occurrence of a name, which may lie
inside a symbol and may already be known to refer to one. An index document lists both.
-/

namespace CallTrace

/-- A declaration. -/
structure Symbol where
  /-- Number of the symbol. -/
  id : Int64
  /-- Declared name. -/
  name : String
  /-- What is declared. -/
  kind : SymbolKind
  /-- File of the declaration. -/
  filePath : String
  /-- First line. -/
  startLine : Int64
  /-- Last line. -/
  endLine : Int64
deriving DecidableEq, Repr, Inhabited

/-- An occurrence of a name. -/
structure Identifier where
  /-- Number of the identifier. -/
  id : Int64
  /-- The name. -/
  name : String
  /-- How the name is used. -/
  kind : IdentifierKind
  /-- File of the occurrence. -/
  filePath : String
  /-- Line of the occurrence. -/
  line : Option Int64
  /-- Number of the symbol around it. -/
  containerId : Option Int64
  /-- Number of the symbol that it is known to refer to. -/
  targetId : Option Int64
deriving DecidableEq, Repr, Inhabited

/-- Symbols and identifiers of a workspace, as they are handed over for storage. -/
structure IndexDocument where
  /-- The symbols. -/
  symbols : List Symbol
  /-- The identifiers. -/
  identifiers : List Identifier
deriving DecidableEq, Repr, Inhabited

/-- The whole number nearest to an integer among the 64-bit signed integers. -/
def saturate (value : Int) : Int64 :=
  if value < Int64.minValue.toInt then
    Int64.minValue
  else if Int64.maxValue.toInt < value then
    Int64.maxValue
  else
    Int64.ofInt value

namespace Symbol

/-- How many lines the declaration covers beyond its first. -/
def lineSpan (symbol : Symbol) : Int64 :=
  saturate (symbol.endLine.toInt - symbol.startLine.toInt)

/-- Whether the declaration ends before it starts. -/
def isInverted (symbol : Symbol) : Bool :=
  symbol.endLine < symbol.startLine

end Symbol

namespace Identifier

/-- Whether the identifier calls its name. -/
def isCall (identifier : Identifier) : Bool :=
  identifier.kind == .call

end Identifier

end CallTrace
