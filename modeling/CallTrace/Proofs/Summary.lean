import CallTrace.CallPath.Summary

/-!
# Summaries of several lists of trees

A summary is taken node by node along the trees, but it comes to the same when every tree is summed
up by itself and the results are put together, in whatever order.
-/

namespace CallTrace.TraceSummary

/-- Two summaries put together. -/
def combine (left right : TraceSummary) : TraceSummary where
  totalNodes := left.totalNodes + right.totalNodes
  deepest := max left.deepest right.deepest
  unresolved := left.unresolved + right.unresolved

theorem combine_assoc (first second third : TraceSummary) :
    (first.combine second).combine third = first.combine (second.combine third) := by
  simp only [combine, Nat.add_assoc, Nat.max_assoc]

theorem combine_comm (left right : TraceSummary) : left.combine right = right.combine left := by
  simp only [combine, Nat.add_comm, Nat.max_comm]

theorem combine_left_comm (first second third : TraceSummary) :
    first.combine (second.combine third) = second.combine (first.combine third) := by
  rw [← combine_assoc, combine_comm first, combine_assoc]

@[simp]
theorem combine_empty (summary : TraceSummary) : summary.combine empty = summary := by
  simp [combine, empty]

/-- The summary of one tree. -/
def ofTree (node : CallNode) : TraceSummary :=
  empty.addTree node

theorem addNode_eq_combine (summary : TraceSummary) (depth : Nat) (isUnresolved : Bool) :
    summary.addNode depth isUnresolved = summary.combine (empty.addNode depth isUnresolved) := by
  cases isUnresolved <;> simp [addNode, combine, empty]

mutual

theorem addTree_eq_combine (summary : TraceSummary) :
    (node : CallNode) → summary.addTree node = summary.combine (ofTree node)
  | ⟨_, _, target, depth, direction, children⟩ => by
      rw [ofTree, addTree, addTree, addTrees_eq_combine _ children,
        addTrees_eq_combine (empty.addNode _ _) children, addNode_eq_combine summary,
        combine_assoc]

theorem addTrees_eq_combine (summary : TraceSummary) :
    (nodes : List CallNode) → summary.addTrees nodes = summary.combine (ofTrees nodes)
  | [] => (combine_empty summary).symm
  | node :: rest => by
      rw [ofTrees, addTrees, addTrees, addTrees_eq_combine _ rest,
        addTrees_eq_combine (empty.addTree node) rest, addTree_eq_combine summary node, ofTree,
        combine_assoc]

end

theorem ofTrees_cons (node : CallNode) (rest : List CallNode) :
    ofTrees (node :: rest) = (ofTree node).combine (ofTrees rest) :=
  addTrees_eq_combine (ofTree node) rest

theorem ofTree_eq_combine (node : CallNode) :
    ofTree node =
      (empty.addNode node.depth (node.target.isNone && node.direction == .downward)).combine
        (ofTrees node.children) := by
  obtain ⟨_, _, target, depth, direction, children⟩ := node
  exact addTrees_eq_combine (empty.addNode depth _) children

end CallTrace.TraceSummary
