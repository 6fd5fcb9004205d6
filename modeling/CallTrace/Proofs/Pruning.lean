import CallTrace.Proofs.CallTree

/-!
# Suppressed cycles

A trace that suppresses cycles finds what is left of the trees of a plain trace when every branch is
cut where it comes back to a symbol that it has passed. Upwards the call that comes back stays and
loses what leads on from it; downwards the calls inside a symbol that has been passed are dropped
together. What one branch has passed does not matter to another one.
-/

namespace CallTrace

namespace CallNode

/-- The number of the symbol around a call. -/
def containerId (node : CallNode) : Option Int64 :=
  node.container.map Symbol.id

mutual

/-- A tree of callers without what leads on from calls inside the symbols that have been passed. -/
def pruneCaller (passed : List Int64) : CallNode → CallNode
  | ⟨identifier, container, target, depth, direction, children⟩ =>
    { identifier, container, target, depth, direction
      children :=
        match container with
        | none => pruneCallers passed children
        | some caller =>
          if passed.contains caller.id then
            []
          else
            pruneCallers (caller.id :: passed) children }

/-- Trees of callers without what leads on from calls inside the symbols that have been passed. -/
def pruneCallers (passed : List Int64) : List CallNode → List CallNode
  | [] => []
  | node :: rest => pruneCaller passed node :: pruneCallers passed rest

end

/-- Whether the symbol around all of these calls has been passed. -/
def isPassed (passed : List Int64) (siblings : List CallNode) : Bool :=
  passed.any fun id => siblings.all fun node => node.containerId == some id

mutual

/-- A tree of callees without the calls inside the symbols that have been passed above them. -/
def pruneCallee (passed : List Int64) : CallNode → CallNode
  | ⟨identifier, container, target, depth, direction, children⟩ =>
    let nowPassed := (container.map Symbol.id).toList ++ passed
    { identifier, container, target, depth, direction
      children := if isPassed nowPassed children then [] else pruneCallees nowPassed children }

/-- Trees of callees, each without the calls inside the symbols that have been passed above them. -/
def pruneCallees (passed : List Int64) : List CallNode → List CallNode
  | [] => []
  | node :: rest => pruneCallee passed node :: pruneCallees passed rest

end

/-- The calls of one list, or none of them when the symbol around them has been passed. -/
def pruneSiblings (passed : List Int64) (siblings : List CallNode) : List CallNode :=
  if isPassed passed siblings then [] else pruneCallees passed siblings

theorem pruneCaller_eq (passed : List Int64) (node : CallNode) :
    pruneCaller passed node =
      { node with
        children :=
          match node.container with
          | none => pruneCallers passed node.children
          | some caller =>
            if passed.contains caller.id then
              []
            else
              pruneCallers (caller.id :: passed) node.children } := by
  cases node
  rfl

theorem pruneCallee_eq (passed : List Int64) (node : CallNode) :
    pruneCallee passed node =
      { node with
        children := pruneSiblings (node.containerId.toList ++ passed) node.children } := by
  cases node
  rfl

theorem pruneCallers_eq_map (passed : List Int64) (nodes : List CallNode) :
    pruneCallers passed nodes = nodes.map (pruneCaller passed) := by
  induction nodes with
  | nil => rfl
  | cons node rest ih => rw [pruneCallers, ih, List.map_cons]

theorem pruneCallees_eq_map (passed : List Int64) (nodes : List CallNode) :
    pruneCallees passed nodes = nodes.map (pruneCallee passed) := by
  induction nodes with
  | nil => rfl
  | cons node rest ih => rw [pruneCallees, ih, List.map_cons]

@[simp]
theorem pruneSiblings_nil (passed : List Int64) : pruneSiblings passed [] = [] :=
  ite_self []

/-- Calls inside one symbol are dropped together, when that symbol has been passed. -/
theorem pruneSiblings_of_shared {passed : List Int64} {siblings : List CallNode} (id : Int64)
    (shared : ∀ node ∈ siblings, node.containerId = some id) :
    pruneSiblings passed siblings =
      if passed.contains id then [] else siblings.map (pruneCallee passed) := by
  cases siblings with
  | nil => rw [pruneSiblings_nil, List.map_nil, ite_self]
  | cons node rest =>
      have passedIff : isPassed passed (node :: rest) = passed.contains id := by
        rw [Bool.eq_iff_iff, isPassed, List.any_eq_true, List.contains_iff_mem]
        constructor
        · rintro ⟨other, isPassed, all⟩
          have same : node.containerId = some other := by
            simpa using List.all_eq_true.mp all node (.head _)
          rw [shared node (.head _)] at same
          rwa [Option.some.inj same]
        · intro isPassed
          refine ⟨id, isPassed, List.all_eq_true.mpr fun sibling member => ?_⟩
          simpa using shared sibling member
      rw [pruneSiblings, passedIff, pruneCallees_eq_map]

/-! ## Branches that do not come back -/

/-- No branch comes to a symbol that has been passed, and none comes to a symbol twice. -/
def NeverReturns (passed : List Int64) (trees : List CallNode) : Prop :=
  ∀ path, Branch trees path → (passed ++ path.filterMap containerId).Nodup

namespace NeverReturns

variable {passed : List Int64} {trees : List CallNode} {node : CallNode}

theorem mono {fewer : List CallNode} (distinct : NeverReturns passed trees)
    (isPart : ∀ node ∈ fewer, node ∈ trees) : NeverReturns passed fewer := by
  intro path branch
  apply distinct path
  cases branch with
  | root isRoot => exact .root (isPart _ isRoot)
  | descend isRoot branch => exact .descend (isPart _ isRoot) branch

theorem not_mem (distinct : NeverReturns passed trees) (isRoot : node ∈ trees) {id : Int64}
    (isAround : node.containerId = some id) : id ∉ passed := by
  have single := distinct [node] (.root isRoot)
  rw [List.filterMap_cons_some isAround] at single
  exact (List.nodup_cons.mp (List.nodup_middle.mp single)).1 ∘ List.mem_append_left _

theorem children (distinct : NeverReturns passed trees) (isRoot : node ∈ trees) :
    NeverReturns (node.containerId.toList ++ passed) node.children := by
  intro path branch
  -- The number of the node goes from the path under it to what has been passed above the path.
  have whole := distinct (node :: path) (.descend isRoot branch)
  cases isAround : node.containerId with
  | none => rwa [List.filterMap_cons_none isAround] at whole
  | some id =>
      rw [List.filterMap_cons_some isAround] at whole
      exact List.nodup_middle.mp whole

end NeverReturns

mutual

theorem pruneCaller_eq_self {passed : List Int64} :
    (node : CallNode) → NeverReturns passed [node] → pruneCaller passed node = node
  | ⟨_, container, _, _, _, children⟩, distinct => by
      have below := distinct.children (.head _)
      rw [pruneCaller_eq]
      congr 1
      cases container with
      | none => exact pruneCallers_eq_self children below
      | some caller =>
          have isNew : caller.id ∉ passed := distinct.not_mem (.head _) rfl
          simp only [List.contains_iff_mem, isNew, if_false]
          exact pruneCallers_eq_self children below

theorem pruneCallers_eq_self {passed : List Int64} :
    (nodes : List CallNode) → NeverReturns passed nodes → pruneCallers passed nodes = nodes
  | [], _ => rfl
  | node :: rest, distinct => by
      rw [pruneCallers, pruneCaller_eq_self node (distinct.mono (by simp)),
        pruneCallers_eq_self rest (distinct.mono fun _ => .tail _)]

end

/-- Siblings around which no symbol has been passed are not dropped. -/
theorem NeverReturns.pruneSiblings {passed : List Int64} {siblings : List CallNode}
    (distinct : NeverReturns passed siblings) :
    pruneSiblings passed siblings = pruneCallees passed siblings := by
  cases siblings with
  | nil => exact pruneSiblings_nil passed
  | cons node rest =>
      refine if_neg fun isPassed => ?_
      obtain ⟨id, member, all⟩ := List.any_eq_true.mp isPassed
      have isAround : node.containerId = some id := by
        simpa using List.all_eq_true.mp all node (.head _)
      exact distinct.not_mem (.head _) isAround member

mutual

theorem pruneCallee_eq_self {passed : List Int64} :
    (node : CallNode) → NeverReturns passed [node] → pruneCallee passed node = node
  | ⟨_, container, _, _, _, children⟩, distinct => by
      have below := distinct.children (.head _)
      rw [pruneCallee_eq, below.pruneSiblings, pruneCallees_eq_self children below]

theorem pruneCallees_eq_self {passed : List Int64} :
    (nodes : List CallNode) → NeverReturns passed nodes → pruneCallees passed nodes = nodes
  | [], _ => rfl
  | node :: rest, distinct => by
      rw [pruneCallees, pruneCallee_eq_self node (distinct.mono (by simp)),
        pruneCallees_eq_self rest (distinct.mono fun _ => .tail _)]

end

end CallNode

namespace Tracer

variable (tracer : Tracer) (answers : Answers)

/-- The tracer that suppresses cycles or does not. -/
def withSuppression (suppressCycles : Bool) : Tracer :=
  { tracer with options := { tracer.options with suppressCycles } }

@[simp]
theorem snapshot_withSuppression (suppressCycles : Bool) :
    (tracer.withSuppression suppressCycles).snapshot = tracer.snapshot :=
  rfl

@[simp]
theorem implementation_withSuppression (suppressCycles : Bool) (name : String) :
    (tracer.withSuppression suppressCycles).implementation name = tracer.implementation name :=
  rfl

@[simp]
theorem suppresses_withSuppression_false (branch : List Int64) (symbol : Symbol) :
    (tracer.withSuppression false).suppresses branch symbol = false :=
  suppresses_of_plain rfl branch symbol

@[simp]
theorem suppresses_withSuppression_true (branch : List Int64) (symbol : Symbol) :
    (tracer.withSuppression true).suppresses branch symbol = branch.contains symbol.id :=
  suppresses_of_suppressCycles rfl branch symbol

/-- The trees of callers are cut where the branch comes back to a symbol. -/
theorem trees_upwardRoute_suppressed (place : Place) (depth levels : Nat) :
    ((tracer.withSuppression true).upwardRoute answers).trees place depth levels =
      CallNode.pruneCallers place.branch
        (((tracer.withSuppression false).upwardRoute answers).trees place depth levels) := by
  -- The branch of a place holds what has been passed on the way there, so the induction is on the
  -- levels for all places at once.
  induction levels generalizing place depth with
  | zero => rfl
  | succ levels ih =>
      rw [Route.trees_succ, Route.trees_succ, CallNode.pruneCallers_eq_map, List.map_map]
      refine List.map_congr_left fun call _ => ?_
      rw [Function.comp_apply, CallNode.pruneCaller_eq, Route.node, Route.node,
        subtrees_upwardRoute, subtrees_upwardRoute]
      simp only [container_upwardRoute, snapshot_withSuppression,
        suppresses_withSuppression_false, suppresses_withSuppression_true]
      congr 1
      cases tracer.snapshot.container call with
      | none => rfl
      | some caller =>
          simp only [Bool.false_eq_true, if_false]
          split
          · rfl
          · exact ih ⟨caller.name, caller.id :: place.branch⟩ (depth + 1)

theorem containerId_node_downwardRoute {place : Place} {root : Symbol}
    (isBest : tracer.implementation place.name = some root) (depth levels : Nat)
    (call : Identifier) :
    ((tracer.downwardRoute answers).node place depth levels call).containerId = some root.id :=
  congrArg (Option.map Symbol.id) isBest

/-- The trees of callees are cut above the calls inside a symbol to which the branch comes back. -/
theorem trees_downwardRoute_suppressed (place : Place) (depth levels : Nat) :
    ((tracer.withSuppression true).downwardRoute answers).trees place depth levels =
      CallNode.pruneSiblings place.branch
        (((tracer.withSuppression false).downwardRoute answers).trees place depth levels) := by
  induction levels generalizing place depth with
  | zero => exact (CallNode.pruneSiblings_nil _).symm
  | succ levels ih =>
      cases isBest : tracer.implementation place.name with
      | none =>
          rw [Route.trees_succ, Route.trees_succ, calls_downwardRoute, calls_downwardRoute]
          simp only [implementation_withSuppression, isBest]
          exact (CallNode.pruneSiblings_nil _).symm
      | some root =>
          -- All calls of the list lie inside the same symbol, so the cut keeps all or none of them.
          have shared : ∀ node ∈ ((tracer.withSuppression false).downwardRoute answers).trees place
              depth (levels + 1), node.containerId = some root.id := by
            intro node isRoot
            obtain ⟨call, -, rfl⟩ := List.mem_map.mp isRoot
            exact containerId_node_downwardRoute _ answers isBest depth levels call
          rw [CallNode.pruneSiblings_of_shared root.id shared, Route.trees_succ, Route.trees_succ,
            calls_downwardRoute, calls_downwardRoute]
          simp only [implementation_withSuppression, isBest, suppresses_withSuppression_false,
            suppresses_withSuppression_true, Bool.false_eq_true, if_false]
          split
          next isPassed => rfl
          next isNew =>
            rw [List.map_map]
            refine List.map_congr_left fun call _ => ?_
            rw [Function.comp_apply, CallNode.pruneCallee_eq,
              (tracer.withSuppression false).containerId_node_downwardRoute answers isBest,
              Route.node, Route.node,
              (tracer.withSuppression false).subtrees_downwardRoute answers isBest,
              (tracer.withSuppression true).subtrees_downwardRoute answers isBest]
            simp only [container_downwardRoute, snapshot_withSuppression]
            congr 1
            cases tracer.snapshot.target call with
            | none => exact (CallNode.pruneSiblings_nil _).symm
            | some callee => exact ih ⟨callee.name, root.id :: place.branch⟩ (depth + 1)

end Tracer

namespace Answers

variable (answers : Answers) (name : String) (options : TraceOptions)

theorem trees_upward_suppressed :
    answers.trees .upward name { options with suppressCycles := true } =
      CallNode.pruneCallers []
        (answers.trees .upward name { options with suppressCycles := false }) :=
  (answers.tracer options).trees_upwardRoute_suppressed answers ⟨name, []⟩ 0 (options.maxDepth + 1)

theorem trees_downward_suppressed :
    answers.trees .downward name { options with suppressCycles := true } =
      CallNode.pruneSiblings []
        (answers.trees .downward name { options with suppressCycles := false }) :=
  (answers.tracer options).trees_downwardRoute_suppressed answers ⟨name, []⟩ 0
    (options.maxDepth + 1)

end Answers

namespace CallPath

/-- Over every store that never fails, a trace that suppresses cycles comes to the trees of the
plain trace, cut where a branch comes back to a symbol, and to those trees themselves when no branch
comes back. -/
theorem suppressed_eq_pruned {ε : Type} (answers : Answers) (config : Config) (name : String)
    (maxDepth : Nat) (caseSensitive : Bool) :
    let options (suppressCycles : Bool) : TraceOptions := ⟨maxDepth, caseSensitive, suppressCycles⟩
    (∃ callers,
      (traceUpward config name (options false)).outcome (ε := ε) answers.store = .ok callers ∧
        (traceUpward config name (options true)).outcome (ε := ε) answers.store =
          .ok (CallNode.pruneCallers [] callers) ∧
        (CallNode.NeverReturns [] callers → CallNode.pruneCallers [] callers = callers)) ∧
      ∃ callees,
        (traceDownward config name (options false)).outcome (ε := ε) answers.store = .ok callees ∧
          (traceDownward config name (options true)).outcome (ε := ε) answers.store =
            .ok (CallNode.pruneSiblings [] callees) ∧
          (CallNode.NeverReturns [] callees → CallNode.pruneSiblings [] callees = callees) := by
  intro options
  have callersPruned := answers.trees_upward_suppressed name ((options false).clamp config)
  have calleesPruned := answers.trees_downward_suppressed name ((options false).clamp config)
  refine ⟨⟨_, outcome_trace answers config .upward name (options false), ?_, ?_⟩,
    ⟨_, outcome_trace answers config .downward name (options false), ?_, ?_⟩⟩
  · exact (outcome_trace answers config .upward name (options true)).trans (congrArg _ callersPruned)
  · exact CallNode.pruneCallers_eq_self _
  · exact (outcome_trace answers config .downward name (options true)).trans (congrArg _ calleesPruned)
  · intro distinct
    rw [distinct.pruneSiblings]
    exact CallNode.pruneCallees_eq_self _ distinct

end CallPath

end CallTrace
