import CallTrace.CallPath.Node

/-!
# Summaries of call trees

How many calls some trees have, how deep they go, and how many callees are not known.
-/

namespace CallTrace

/-- A count of the nodes of some trees. -/
structure TraceSummary where
  /-- Number of nodes. -/
  totalNodes : Nat
  /-- Greatest depth of a node. -/
  deepest : Nat
  /-- Number of downward nodes without a target. -/
  unresolved : Nat
deriving DecidableEq, Repr

namespace TraceSummary

/-- The summary of no tree. -/
def empty : TraceSummary :=
  ⟨0, 0, 0⟩

/-- The summary together with one more node. -/
def addNode (summary : TraceSummary) (depth : Nat) (isUnresolved : Bool) : TraceSummary where
  totalNodes := summary.totalNodes + 1
  deepest := max summary.deepest depth
  unresolved := if isUnresolved then summary.unresolved + 1 else summary.unresolved

mutual

/-- The summary together with one more tree. -/
def addTree (summary : TraceSummary) : CallNode → TraceSummary
  | ⟨_, _, target, depth, direction, children⟩ =>
    addTrees (summary.addNode depth (target.isNone && direction == .downward)) children

/-- The summary together with more trees. -/
def addTrees (summary : TraceSummary) : List CallNode → TraceSummary
  | [] => summary
  | node :: rest => addTrees (addTree summary node) rest

end

/-- The summary of some trees. -/
def ofTrees (nodes : List CallNode) : TraceSummary :=
  empty.addTrees nodes

/-- The written form of a summary. -/
def toJson (summary : TraceSummary) : Json :=
  Json.ofFields [
    ("total_nodes", Json.ofNat summary.totalNodes),
    ("deepest", Json.ofNat summary.deepest),
    ("unresolved", Json.ofNat summary.unresolved)]

end TraceSummary

/-- The summary of callers and callees. -/
def CallPath.summary (path : CallPath) : TraceSummary :=
  (TraceSummary.ofTrees path.callers).addTrees path.callees

end CallTrace
