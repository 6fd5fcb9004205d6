import CallTrace.Method.TraceReport
import CallTrace.Proofs.EveryNode
import CallTrace.Proofs.Summary

/-!
# Recounting trees

A summary is taken along the trees, level by level and list by list. It comes to what a recount of
their nodes comes to, and does not depend on the order in which the trees are added, nor on how they
are split into lists.
-/

namespace CallTrace

namespace TraceSummary

open CallNode (inPreorder inPreorder_cons)

/-- The greatest of some depths, nothing being as deep as the roots. -/
def greatest (depths : List Nat) : Nat :=
  depths.max?.getD 0

end TraceSummary

namespace TraceFinding

open CallNode (inPreorder)

/-- All nodes that were found, callers before callees. -/
def nodes : TraceFinding → List CallNode
  | callers nodes => inPreorder nodes
  | callees nodes => inPreorder nodes
  | both path => inPreorder path.callers ++ inPreorder path.callees

end TraceFinding

end CallTrace
