import CallTrace.Index.Format

/-!
# Call trees

A node of a call tree is a call, together with the symbol around it, the symbol that it most likely
refers to, and the calls that lead on from there: to its callers in an upward tree, to its callees
in a downward one.
-/

namespace CallTrace

/-- Which way a tree follows calls. -/
inductive CallDirection where
  /-- Towards callers. -/
  | upward
  /-- Towards callees. -/
  | downward
deriving DecidableEq, Repr

/-- The word for a direction. -/
def CallDirection.text : CallDirection → String
  | upward => "upward"
  | downward => "downward"

/-- A call and the calls that lead on from it. -/
structure CallNode where
  /-- The call. -/
  identifier : Identifier
  /-- The symbol around the call. -/
  container : Option Symbol
  /-- The symbol that the call most likely refers to. -/
  target : Option Symbol
  /-- Number of calls above this one. -/
  depth : Nat
  /-- Which way the tree follows calls. -/
  direction : CallDirection
  /-- The calls that lead on from this one. -/
  children : List CallNode
deriving Repr

namespace CallNode

mutual

/-- The written form of a node. How sure a match is has no finer measure than that it was made. -/
def toJson : CallNode → Json
  | ⟨identifier, container, target, depth, direction, children⟩ =>
    Json.ofFields [
      ("identifier", identifier.toJson),
      ("containing_symbol", Json.ofOption Symbol.toJson container),
      ("target_symbol", Json.ofOption Symbol.toJson target),
      ("depth", Json.ofNat depth),
      ("direction", .text direction.text),
      ("children", .array (listToJson children)),
      ("confidence", .number (.real .one)),
      ("is_semantic_match", .boolean false)]

/-- The written forms of some nodes. -/
def listToJson : List CallNode → List Json
  | [] => []
  | node :: rest => toJson node :: listToJson rest

end

end CallNode

/-- Callers and callees of a symbol. -/
structure CallPath where
  /-- The symbol. -/
  target : Symbol
  /-- The calls of its name, and what leads to them. -/
  callers : List CallNode
  /-- The calls inside it, and what they lead to. -/
  callees : List CallNode
deriving Repr

/-- The written form of callers and callees. -/
def CallPath.toJson (path : CallPath) : Json :=
  Json.ofFields [
    ("target_symbol", path.target.toJson),
    ("callers", .array (CallNode.listToJson path.callers)),
    ("callees", .array (CallNode.listToJson path.callees))]

end CallTrace
