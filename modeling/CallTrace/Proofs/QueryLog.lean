import CallTrace.CallPath.Summary
import CallTrace.Proofs.Guarded
import CallTrace.Proofs.Pruning

/-!
# The queries of a trace

Over a store that never fails, the trees of a trace tell which queries it asked. It asks for all
symbols once and first. Upwards it then asks for the identifiers with the traced name and, call by
call, with the name of the symbol around each call that it follows; downwards it asks for those
inside the best implementation of the traced name and inside that of what each followed call refers
to. The calls are met in preorder, so a trace asks at most one query for every node, and two more.
-/

namespace CallTrace

namespace CallNode

mutual

/-- The nodes of a tree, each before those under it and with all nodes above it. -/
def preorder (above : List CallNode) : CallNode → List (CallNode × List CallNode)
  | node@⟨_, _, _, _, _, children⟩ => (node, above) :: preorderAll (node :: above) children

/-- The nodes of some trees, tree by tree. -/
def preorderAll (above : List CallNode) : List CallNode → List (CallNode × List CallNode)
  | [] => []
  | node :: rest => preorder above node ++ preorderAll above rest

end

theorem preorder_eq (above : List CallNode) (node : CallNode) :
    preorder above node = (node, above) :: preorderAll (node :: above) node.children := by
  cases node
  rfl

theorem preorderAll_eq_flatMap (above nodes : List CallNode) :
    preorderAll above nodes = nodes.flatMap (preorder above) := by
  induction nodes with
  | nil => rfl
  | cons node rest ih => rw [preorderAll, ih, List.flatMap_cons]

/-- Whether the symbol with a number is around one of the nodes. -/
def isAround (nodes : List CallNode) (id : Int64) : Bool :=
  nodes.any fun node => node.containerId == some id

theorem isAround_eq_contains (nodes : List CallNode) (id : Int64) :
    isAround nodes id = (nodes.filterMap containerId).contains id := by
  rw [Bool.eq_iff_iff, isAround, List.any_eq_true, List.contains_iff_mem, List.mem_filterMap]
  simp only [beq_iff_eq]

theorem filterMap_containerId_cons {node : CallNode} {symbol : Symbol}
    (around : node.container = some symbol) (above : List CallNode) :
    (node :: above).filterMap containerId = symbol.id :: above.filterMap containerId :=
  List.filterMap_cons_some (congrArg (Option.map Symbol.id) around)

/-- The queries that belong to the nodes of some trees, in preorder. -/
def queriesOf (query : CallNode → List CallNode → Option Query) (above trees : List CallNode) :
    List Query :=
  (preorderAll above trees).filterMap fun entry => query entry.1 entry.2

@[simp]
theorem queriesOf_nil (query : CallNode → List CallNode → Option Query) (above : List CallNode) :
    queriesOf query above [] = [] :=
  rfl

theorem queriesOf_eq_flatMap (query : CallNode → List CallNode → Option Query)
    (above trees : List CallNode) :
    queriesOf query above trees =
      trees.flatMap fun node =>
        (query node above).toList ++ queriesOf query (node :: above) node.children := by
  rw [queriesOf, preorderAll_eq_flatMap, List.filterMap_flatMap]
  refine congrArg (trees.flatMap ·) (funext fun node => ?_)
  rw [preorder_eq, List.filterMap_cons]
  cases query node above <;> rfl

theorem mem_queriesOf {query : CallNode → List CallNode → Option Query}
    {above trees : List CallNode} {asked : Query} (isAsked : asked ∈ queriesOf query above trees) :
    ∃ node above, query node above = some asked := by
  obtain ⟨entry, -, belongs⟩ := List.mem_filterMap.mp isAsked
  exact ⟨entry.1, entry.2, belongs⟩

end CallNode

namespace TraceSummary

mutual

theorem totalNodes_addTree (summary : TraceSummary) (above : List CallNode) :
    (node : CallNode) →
      (summary.addTree node).totalNodes =
        summary.totalNodes + (CallNode.preorder above node).length
  | ⟨_, _, target, depth, direction, children⟩ => by
      rw [addTree, totalNodes_addTrees _ _ children, CallNode.preorder_eq, List.length_cons,
        addNode, Nat.add_assoc, Nat.add_comm 1]

/-- A summary counts the nodes that are met in preorder. -/
theorem totalNodes_addTrees (summary : TraceSummary) (above : List CallNode) :
    (nodes : List CallNode) →
      (summary.addTrees nodes).totalNodes =
        summary.totalNodes + (CallNode.preorderAll above nodes).length
  | [] => rfl
  | node :: rest => by
      rw [addTrees, totalNodes_addTrees _ above rest, totalNodes_addTree _ above node,
        CallNode.preorderAll, List.length_append, Nat.add_assoc]

end

theorem length_queriesOf_le (query : CallNode → List CallNode → Option Query)
    (trees : List CallNode) :
    (CallNode.queriesOf query [] trees).length ≤ (ofTrees trees).totalNodes := by
  have counted : (ofTrees trees).totalNodes = (CallNode.preorderAll [] trees).length :=
    (totalNodes_addTrees empty [] trees).trans (Nat.zero_add _)
  rw [counted]
  exact List.length_filterMap_le _ _

end TraceSummary

namespace Tracer

open CallNode (isAround queriesOf containerId)

variable (tracer : Tracer)

/-- The query by which a trace goes on upwards from a node: for the name of the symbol around it, if
the node is not too deep and the symbol is not passed over because it is around a node above. -/
def callerQuery (node : CallNode) (above : List CallNode) : Option Query := do
  let caller ← node.container
  if node.depth < tracer.options.maxDepth &&
      !(tracer.options.suppressCycles && isAround above caller.id) then
    some (.identifiersNamed caller.name tracer.options.caseSensitive)
  else
    none

/-- The query by which a trace goes on downwards from a node: for the best implementation of the
name of its target, if the node is not too deep and the implementation is not passed over because it
is around the node or one above. -/
def calleeQuery (node : CallNode) (above : List CallNode) : Option Query := do
  let callee ← node.target
  let root ← tracer.implementation callee.name
  if node.depth < tracer.options.maxDepth &&
      !(tracer.options.suppressCycles && isAround (node :: above) root.id) then
    some (.identifiersWithin root.id)
  else
    none

/-- The query with which a trace of callees begins. -/
def rootQuery (place : Place) : Option Query := do
  let root ← tracer.implementation place.name
  if tracer.suppresses place.branch root then none else some (.identifiersWithin root.id)

variable {tracer} {answers : Answers} {node : CallNode} {above : List CallNode}

theorem suppresses_filterMap (nodes : List CallNode) (symbol : Symbol) :
    tracer.suppresses (nodes.filterMap containerId) symbol =
      (tracer.options.suppressCycles && isAround nodes symbol.id) := by
  rw [suppresses, CallNode.isAround_eq_contains]

theorem callerQuery_of_container {caller : Symbol} (isWithin : node.container = some caller) :
    tracer.callerQuery node above =
      if node.depth < tracer.options.maxDepth ∧
          tracer.suppresses (above.filterMap containerId) caller = false then
        some (.identifiersNamed caller.name tracer.options.caseSensitive)
      else
        none := by
  rw [callerQuery, isWithin, suppresses_filterMap]
  cases tracer.options.suppressCycles <;> simp

theorem kind_of_callerQuery {query : Query} (belongs : tracer.callerQuery node above = some query) :
    query.kind = .identifiersNamed := by
  obtain ⟨caller, -, follows⟩ := Option.bind_eq_some_iff.mp belongs
  split at follows
  · cases follows
    rfl
  · cases follows

theorem kind_of_calleeQuery {query : Query} (belongs : tracer.calleeQuery node above = some query) :
    query.kind = .identifiersWithin := by
  obtain ⟨callee, -, leads⟩ := Option.bind_eq_some_iff.mp belongs
  obtain ⟨root, -, follows⟩ := Option.bind_eq_some_iff.mp leads
  split at follows
  · cases follows
    rfl
  · cases follows

/-- A trace of callees goes on from a node as it begins at the name of the target. -/
theorem calleeQuery_of_target {callee : Symbol} (refers : node.target = some callee) :
    tracer.calleeQuery node above =
      if node.depth < tracer.options.maxDepth then
        tracer.rootQuery ⟨callee.name, (node :: above).filterMap containerId⟩
      else
        none := by
  rw [calleeQuery, refers, rootQuery]
  simp only [Option.bind_eq_bind, Option.bind_some, suppresses_filterMap]
  cases tracer.implementation callee.name with
  | none => simp
  | some root =>
      simp only [Option.bind_some]
      cases tracer.options.suppressCycles && isAround (node :: above) root.id <;> simp

variable (tracer answers)

/-- On so many levels, the first query is for the name of the place, and the others belong to the
nodes. -/
theorem queries_callers (place : Place) (above : List CallNode) (depth levels : Nat)
    (isBranch : place.branch = above.filterMap containerId)
    (fits : depth + levels = tracer.options.maxDepth + 1) :
    (tracer.callers place.name depth place.branch levels).queries answers =
      (if 0 < levels then
          some (.identifiersNamed place.name tracer.options.caseSensitive)
        else
          none).toList ++
        queriesOf tracer.callerQuery above
          ((tracer.upwardRoute answers).trees place depth levels) := by
  induction levels generalizing place above depth with
  | zero => rfl
  | succ levels ih =>
      have each := tracer.isGuarded_callerNode
        (fun name depth branch => tracer.isGuarded_callers name depth branch levels) depth
        place.branch
      rw [callers_succ, Inquiry.queries_pause_query, Inquiry.queries_forEach each,
        Route.trees_succ, CallNode.queriesOf_eq_flatMap, List.flatMap_map,
        if_pos (Nat.succ_pos levels)]
      refine congrArg (_ :: ·) (congrArg (List.flatMap · _) (funext fun call => ?_))
      rw [callerNode, Inquiry.queries_bind_pure, callersAround, Route.children_node,
        subtrees_upwardRoute]
      cases isWithin : tracer.snapshot.container call with
      | none => simp [callerQuery, isWithin]
      | some caller =>
          have around : ((tracer.upwardRoute answers).node place depth levels call).container =
              some caller := isWithin
          rw [callerQuery_of_container around, Route.depth_node, ← isBranch]
          cases isPassed : tracer.suppresses place.branch caller with
          | true => simp [isPassed]
          | false =>
              have isLonger := CallNode.filterMap_containerId_cons around above
              rw [← isBranch] at isLonger
              have isAbove : depth < tracer.options.maxDepth ↔ 0 < levels := by omega
              have below := ih ⟨caller.name, caller.id :: place.branch⟩ _ (depth + 1) isLonger.symm
                (by omega)
              simpa [isPassed, isAbove] using below

theorem queries_callees (place : Place) (above : List CallNode) (depth levels : Nat)
    (isBranch : place.branch = above.filterMap containerId)
    (fits : depth + levels = tracer.options.maxDepth + 1) :
    (tracer.callees place.name depth place.branch levels).queries answers =
      (if 0 < levels then tracer.rootQuery place else none).toList ++
        queriesOf tracer.calleeQuery above
          ((tracer.downwardRoute answers).trees place depth levels) := by
  induction levels generalizing place above depth with
  | zero => rfl
  | succ levels ih =>
      rw [callees_succ, Route.trees_succ, calls_downwardRoute, if_pos (Nat.succ_pos levels),
        rootQuery]
      cases isBest : tracer.implementation place.name with
      | none => rfl
      | some root =>
          simp only [Option.bind_eq_bind, Option.bind_some]
          cases tracer.suppresses place.branch root with
          | true => rfl
          | false =>
              have each := tracer.isGuarded_calleeNode
                (fun name depth branch => tracer.isGuarded_callees name depth branch levels) root
                depth place.branch
              simp only [Bool.false_eq_true, if_false]
              rw [Inquiry.queries_pause_query, Inquiry.queries_forEach each,
                CallNode.queriesOf_eq_flatMap, List.flatMap_map]
              refine congrArg (_ :: ·) (congrArg (List.flatMap · _) (funext fun call => ?_))
              rw [calleeNode, Inquiry.queries_bind_pure, calleesBehind, Route.children_node,
                subtrees_downwardRoute _ _ isBest]
              cases refers : tracer.snapshot.target call with
              | none => simp [calleeQuery, refers]
              | some callee =>
                  have around :
                      ((tracer.downwardRoute answers).node place depth levels call).container =
                        some root := isBest
                  have isLonger := CallNode.filterMap_containerId_cons around above
                  rw [← isBranch] at isLonger
                  have isAbove : depth < tracer.options.maxDepth ↔ 0 < levels := by omega
                  have below := ih ⟨callee.name, root.id :: place.branch⟩ _ (depth + 1)
                    isLonger.symm (by omega)
                  rw [calleeQuery_of_target refers, isLonger, Route.depth_node]
                  simpa [isAbove] using below

end Tracer

namespace CallPath

open CallNode (queriesOf)

theorem queries_trace_upward (answers : Answers) (name : String) (options : TraceOptions) :
    (Tracer.trace .upward name options).queries answers =
      .allSymbols :: .identifiersNamed name options.caseSensitive ::
        queriesOf (answers.tracer options).callerQuery []
          (answers.trees .upward name options) := by
  have below := (answers.tracer options).queries_callers answers ⟨name, []⟩ [] 0
    (options.maxDepth + 1) rfl (Nat.zero_add _)
  rw [if_pos (Nat.succ_pos _)] at below
  exact congrArg (.allSymbols :: ·) below

theorem queries_trace_downward (answers : Answers) (name : String) (options : TraceOptions) :
    (Tracer.trace .downward name options).queries answers =
      .allSymbols ::
        ((((answers.tracer options).implementation name).map fun root =>
            .identifiersWithin root.id).toList ++
          queriesOf (answers.tracer options).calleeQuery []
            (answers.trees .downward name options)) := by
  have below := (answers.tracer options).queries_callees answers ⟨name, []⟩ [] 0
    (options.maxDepth + 1) rfl (Nat.zero_add _)
  have isFirst : (answers.tracer options).rootQuery ⟨name, []⟩ =
      ((answers.tracer options).implementation name).map fun root =>
        .identifiersWithin root.id := by
    rw [Tracer.rootQuery]
    cases (answers.tracer options).implementation name with
    | none => rfl
    | some root => simp [Tracer.suppresses]
  rw [if_pos (Nat.succ_pos _), isFirst] at below
  exact congrArg (.allSymbols :: ·) below

theorem conduct_trace_steady {ε : Type} (answers : Answers) (config : Config)
    (direction : CallDirection) (name : String) (options : TraceOptions) :
    (trace config direction name options).conduct (ε := ε) (.steady answers.store) (.start false) =
      (.ok (answers.trees direction name (options.clamp config)),
        ⟨((trace config direction name options).queries answers).reverse, false⟩) := by
  rw [← List.append_nil (List.reverse _), ← outcome_trace]
  exact Inquiry.conduct_store _ []

/-- Over every store that never fails, a trace asks for all symbols, then for what its name stands
for, and then, in preorder, the query that belongs to each node of the trees to which it comes. So
it asks for identifiers at most once more than the trees have nodes. -/
theorem conduct_trace_preorder {ε : Type} (answers : Answers) (config : Config) (name : String)
    (options : TraceOptions) :
    let tracer := answers.tracer (options.clamp config)
    (∃ callers queries,
      (traceUpward config name options).conduct (ε := ε) (.steady answers.store) (.start false) =
          (.ok callers, ⟨(.allSymbols :: queries).reverse, false⟩) ∧
        queries = .identifiersNamed name options.caseSensitive ::
          queriesOf tracer.callerQuery [] callers ∧
        (∀ query ∈ queries, query.kind = .identifiersNamed) ∧
        queries.length ≤ 1 + (TraceSummary.ofTrees callers).totalNodes) ∧
      ∃ callees queries,
        (traceDownward config name options).conduct (ε := ε) (.steady answers.store) (.start false) =
            (.ok callees, ⟨(.allSymbols :: queries).reverse, false⟩) ∧
          queries =
            ((tracer.implementation name).map fun root => .identifiersWithin root.id).toList ++
              queriesOf tracer.calleeQuery [] callees ∧
          (∀ query ∈ queries, query.kind = .identifiersWithin) ∧
          queries.length ≤ 1 + (TraceSummary.ofTrees callees).totalNodes := by
  intro tracer
  refine ⟨⟨answers.trees .upward name (options.clamp config), _, ?_, rfl, ?_, ?_⟩,
    ⟨answers.trees .downward name (options.clamp config), _, ?_, rfl, ?_, ?_⟩⟩
  · rw [traceUpward, conduct_trace_steady, trace, queries_trace_upward]
    rfl
  · intro query isAsked
    rcases List.mem_cons.mp isAsked with rfl | isLater
    · rfl
    · obtain ⟨node, above, belongs⟩ := CallNode.mem_queriesOf isLater
      exact Tracer.kind_of_callerQuery belongs
  · rw [List.length_cons, Nat.add_comm]
    exact Nat.add_le_add_left (TraceSummary.length_queriesOf_le _ _) 1
  · rw [traceDownward, conduct_trace_steady, trace, queries_trace_downward]
  · intro query isAsked
    rcases List.mem_append.mp isAsked with isFirst | isLater
    · obtain ⟨root, -, rfl⟩ := Option.map_eq_some_iff.mp (Option.mem_toList.mp isFirst)
      rfl
    · obtain ⟨node, above, belongs⟩ := CallNode.mem_queriesOf isLater
      exact Tracer.kind_of_calleeQuery belongs
  · have isOne : ((tracer.implementation name).map fun root =>
        Query.identifiersWithin root.id).toList.length ≤ 1 := by
      cases tracer.implementation name <;> simp
    rw [List.length_append]
    exact Nat.add_le_add isOne (TraceSummary.length_queriesOf_le _ _)

end CallPath

end CallTrace
