import CallTrace.Index.Format
import CallTrace.Index.Target

/-!
# References

A reference is an identifier together with the symbol around it and the symbol that it most likely
refers to.
-/

namespace CallTrace

/-- An identifier with what is known about it. -/
structure Reference where
  /-- The identifier. -/
  identifier : Identifier
  /-- The symbol around it. -/
  container : Option Symbol
  /-- The symbol that it most likely refers to. -/
  target : Option Symbol
deriving DecidableEq, Repr

namespace Reference

/-- Whether a symbol is known that the reference refers to. -/
def isResolved (reference : Reference) : Bool :=
  reference.target.isSome

/-- The written form of a reference. -/
def toJson (reference : Reference) : Json :=
  Json.ofFields [
    ("identifier", reference.identifier.toJson),
    ("containing_symbol", Json.ofOption Symbol.toJson reference.container),
    ("target_symbol", Json.ofOption Symbol.toJson reference.target),
    ("is_resolved", .boolean reference.isResolved)]

end Reference

/-- What is known about an identifier. -/
def Snapshot.reference (snapshot : Snapshot) (identifier : Identifier) : Reference where
  identifier
  container := snapshot.container identifier
  target := snapshot.target identifier

end CallTrace
