import CallTrace.Text.Lowercase

/-!
# Kinds of symbols and identifiers

A kind is written as a word whose case does not matter. A few kinds have meaning for the resolution
of names; every other word is kept as it is written.
-/

namespace CallTrace

/-- What a symbol declares. -/
inductive SymbolKind where
  /-- A function. -/
  | function
  /-- A method. -/
  | method
  /-- A class. -/
  | classType
  /-- An interface or trait. -/
  | interfaceType
  /-- A structure. -/
  | structType
  /-- An enumeration. -/
  | enumType
  /-- A field. -/
  | field
  /-- A property. -/
  | property
  /-- A variable. -/
  | variable
  /-- Anything else, by the word that was given for it. -/
  | other (word : String)
deriving DecidableEq, Repr, Inhabited

namespace SymbolKind

/-- The kind that a word in lower case names. -/
def ofLowercase? : String → Option SymbolKind
  | "function" | "fn" | "func" => some .function
  | "method" => some .method
  | "class" => some .classType
  | "interface" | "trait" => some .interfaceType
  | "struct" => some .structType
  | "enum" => some .enumType
  | "field" => some .field
  | "property" => some .property
  | "variable" | "var" => some .variable
  | _ => none

/-- The kind that a word names, in whatever case. -/
def ofText (word : String) : SymbolKind :=
  (ofLowercase? (Text.lowercase word)).getD (.other word)

/-- The word for a kind. -/
def text : SymbolKind → String
  | function => "function"
  | method => "method"
  | classType => "class"
  | interfaceType => "interface"
  | structType => "struct"
  | enumType => "enum"
  | field => "field"
  | property => "property"
  | .variable => "variable"
  | other word => word

/-- Whether symbols of the kind can be called. -/
def callable : SymbolKind → Bool
  | function | method => true
  | _ => false

/-- Whether symbols of the kind store a member. -/
def storesMember : SymbolKind → Bool
  | field | property => true
  | _ => false

/-- Whether the kind is only known by its word. -/
def isOther : SymbolKind → Bool
  | other _ => true
  | _ => false

end SymbolKind

/-- How an identifier uses a name. -/
inductive IdentifierKind where
  /-- It calls it. -/
  | call
  /-- It accesses a member. -/
  | memberAccess
  /-- Anything else, by the word that was given for it. -/
  | other (word : String)
deriving DecidableEq, Repr, Inhabited

namespace IdentifierKind

/-- The kind that a word in lower case names. -/
def ofLowercase? : String → Option IdentifierKind
  | "call" => some .call
  | "member_access" | "memberaccess" => some .memberAccess
  | _ => none

/-- The kind that a word names, in whatever case. -/
def ofText (word : String) : IdentifierKind :=
  (ofLowercase? (Text.lowercase word)).getD (.other word)

/-- The word for a kind. -/
def text : IdentifierKind → String
  | call => "call"
  | memberAccess => "member_access"
  | other word => word

/-- Whether the kind is only known by its word. -/
def isOther : IdentifierKind → Bool
  | other _ => true
  | _ => false

end IdentifierKind

end CallTrace
