import CallTrace.Proofs.CallTree
import CallTrace.Proofs.Snapshot

/-!
# Chains of calls

What a trace without suppression finds is described by chains alone: a chain of callers leads from a
call to a call of the name of the symbol around it, and a chain of callees from a call to a call
inside the best implementation of the name of its target. The branches of the trees are the chains
that are not longer than the depth allows.
-/

namespace CallTrace

open CallNode (Branch)

namespace Tracer

variable (tracer : Tracer) (document : IndexDocument)

/-- The calls inside the best implementation of a name. -/
def callsFrom (name : String) : List Identifier :=
  match tracer.implementation name with
  | none => []
  | some root => document.callsWithin root.id

/-- Calls that lead on downwards from a name, and the symbols around them. -/
inductive CalleeChain : String → List Symbol → List Identifier → Prop
  /-- A call inside the best implementation of the name. -/
  | last {name : String} {root : Symbol} {call : Identifier}
      (isBest : tracer.implementation name = some root)
      (isCall : call ∈ document.callsWithin root.id) : CalleeChain name [root] [call]
  /-- Such a call that refers to a symbol, and a chain from the name of that symbol. -/
  | step {name : String} {root callee : Symbol} {call : Identifier} {roots : List Symbol}
      {calls : List Identifier} (isBest : tracer.implementation name = some root)
      (isCall : call ∈ document.callsWithin root.id)
      (refers : tracer.snapshot.target call = some callee)
      (chain : CalleeChain callee.name roots calls) :
      CalleeChain name (root :: roots) (call :: calls)

/-- Calls that lead on upwards from a name. -/
inductive CallerChain : String → List Identifier → Prop
  /-- A call of the name. -/
  | last {name : String} {call : Identifier}
      (isCall : call ∈ document.callsNamed name tracer.options.caseSensitive) :
      CallerChain name [call]
  /-- Such a call inside a symbol, and a chain from the name of that symbol. -/
  | step {name : String} {caller : Symbol} {call : Identifier} {calls : List Identifier}
      (isCall : call ∈ document.callsNamed name tracer.options.caseSensitive)
      (isWithin : tracer.snapshot.container call = some caller)
      (chain : CallerChain caller.name calls) : CallerChain name (call :: calls)

variable {tracer} {document}

/-! ## Callees -/

theorem calls_downwardRoute_answer (plain : tracer.options.suppressCycles = false)
    (place : Place) :
    (tracer.downwardRoute document.answer).calls place = tracer.callsFrom document place.name := by
  rw [calls_downwardRoute, callsFrom]
  cases tracer.implementation place.name with
  | none => rfl
  | some root =>
      simp only [suppresses_of_plain plain, Bool.false_eq_true, if_false,
        IndexDocument.filter_isCall_answer_within]

/-- A call that is found at a place lies in the best implementation of its name. -/
theorem exists_implementation_of_mem {name : String} {call : Identifier}
    (isFound : call ∈ tracer.callsFrom document name) :
    ∃ root, tracer.implementation name = some root ∧ call ∈ document.callsWithin root.id := by
  rw [callsFrom] at isFound
  split at isFound
  · cases isFound
  · exact ⟨_, ‹_›, isFound⟩

theorem mem_callsFrom {name : String} {root : Symbol} {call : Identifier}
    (isBest : tracer.implementation name = some root)
    (isCall : call ∈ document.callsWithin root.id) : call ∈ tracer.callsFrom document name := by
  rw [callsFrom, isBest]
  exact isCall

theorem next_downwardRoute (answers : Answers) (place : Place) {root : Symbol}
    (isBest : tracer.implementation place.name = some root) (call : Identifier) :
    (tracer.downwardRoute answers).next place call =
      (tracer.snapshot.target call).map fun callee =>
        ⟨callee.name, root.id :: place.branch⟩ := by
  simp only [downwardRoute, isBest]
  cases tracer.snapshot.target call <;> rfl

theorem calleeChain_of_chain (plain : tracer.options.suppressCycles = false) {place : Place}
    {steps : List (Place × Identifier)} (chain : (tracer.downwardRoute document.answer).Chain place steps) :
    ∃ roots, tracer.CalleeChain document place.name roots (steps.map Prod.snd) ∧
      (steps.map fun step => tracer.implementation step.1.name) = roots.map some := by
  induction chain with
  | last isFound =>
      rw [calls_downwardRoute_answer plain] at isFound
      obtain ⟨root, isBest, isCall⟩ := exists_implementation_of_mem isFound
      exact ⟨[root], .last isBest isCall, by simp [isBest]⟩
  | step isFound leads chain ih =>
      rw [calls_downwardRoute_answer plain] at isFound
      obtain ⟨root, isBest, isCall⟩ := exists_implementation_of_mem isFound
      obtain ⟨roots, calleeChain, areRoots⟩ := ih
      rw [next_downwardRoute _ _ isBest] at leads
      obtain ⟨callee, refers, rfl⟩ := Option.map_eq_some_iff.mp leads
      exact ⟨root :: roots, .step isBest isCall refers calleeChain, by simp [isBest, areRoots]⟩

theorem chain_of_calleeChain (plain : tracer.options.suppressCycles = false) {name : String}
    {roots : List Symbol} {calls : List Identifier}
    (chain : tracer.CalleeChain document name roots calls) (branch : List Int64) :
    ∃ steps, (tracer.downwardRoute document.answer).Chain ⟨name, branch⟩ steps ∧
      steps.map Prod.snd = calls := by
  induction chain generalizing branch with
  | @last name root call isBest isCall =>
      refine ⟨[(⟨name, branch⟩, call)], .last ?_, rfl⟩
      rw [calls_downwardRoute_answer plain]
      exact mem_callsFrom isBest isCall
  | @step name root callee call roots calls isBest isCall refers chain ih =>
      obtain ⟨steps, routeChain, rfl⟩ := ih (root.id :: branch)
      refine ⟨(⟨name, branch⟩, call) :: steps, .step ?_ ?_ routeChain, rfl⟩
      · rw [calls_downwardRoute_answer plain]
        exact mem_callsFrom isBest isCall
      · rw [next_downwardRoute _ ⟨name, branch⟩ isBest, refers]
        rfl

/-! ## Callers -/

theorem calls_upwardRoute_answer (place : Place) :
    (tracer.upwardRoute document.answer).calls place =
      document.callsNamed place.name tracer.options.caseSensitive :=
  document.filter_isCall_answer_named place.name tracer.options.caseSensitive

theorem next_upwardRoute_of_plain (plain : tracer.options.suppressCycles = false)
    (answers : Answers) (place : Place) (call : Identifier) :
    (tracer.upwardRoute answers).next place call =
      (tracer.snapshot.container call).map fun caller =>
        ⟨caller.name, caller.id :: place.branch⟩ := by
  simp only [next_upwardRoute, suppresses_of_plain plain, Bool.false_eq_true, if_false]
  cases tracer.snapshot.container call <;> rfl

theorem callerChain_of_chain (plain : tracer.options.suppressCycles = false) {place : Place}
    {steps : List (Place × Identifier)} (chain : (tracer.upwardRoute document.answer).Chain place steps) :
    tracer.CallerChain document place.name (steps.map Prod.snd) := by
  induction chain with
  | last isFound =>
      rw [calls_upwardRoute_answer] at isFound
      exact .last isFound
  | step isFound leads chain ih =>
      rw [calls_upwardRoute_answer] at isFound
      rw [next_upwardRoute_of_plain plain] at leads
      obtain ⟨caller, isWithin, rfl⟩ := Option.map_eq_some_iff.mp leads
      exact .step isFound isWithin ih

theorem chain_of_callerChain (plain : tracer.options.suppressCycles = false) {name : String}
    {calls : List Identifier} (chain : tracer.CallerChain document name calls)
    (branch : List Int64) :
    ∃ steps, (tracer.upwardRoute document.answer).Chain ⟨name, branch⟩ steps ∧
      steps.map Prod.snd = calls := by
  induction chain generalizing branch with
  | @last name call isCall =>
      refine ⟨[(⟨name, branch⟩, call)], .last ?_, rfl⟩
      rw [calls_upwardRoute_answer]
      exact isCall
  | @step name caller call calls isCall isWithin chain ih =>
      obtain ⟨steps, routeChain, rfl⟩ := ih (caller.id :: branch)
      refine ⟨(⟨name, branch⟩, call) :: steps, .step ?_ ?_ routeChain, rfl⟩
      · rw [calls_upwardRoute_answer]
        exact isCall
      · rw [next_upwardRoute_of_plain plain, isWithin]
        rfl

theorem exists_implementation_of_target {document : IndexDocument} {options : TraceOptions}
    {call : Identifier} {callee : Symbol}
    (refers : (document.tracer options).snapshot.target call = some callee) :
    ∃ root, (document.tracer options).implementation callee.name = some root := by
  have isSymbol : callee ∈ document.symbols := Snapshot.mem_of_target_ofList refers
  have matchesItself := Snapshot.mem_matching_self isSymbol options.caseSensitive
  exact Symbol.exists_bestImplementation (List.ne_nil_of_mem matchesItself)

end Tracer

namespace IndexDocument

variable (document : IndexDocument) (options : TraceOptions) (name : String)
  (trees : List CallNode)

/-- The trees are the callees of a name: all chains that the depth allows, with everything that
stands on their nodes, and all siblings in their order. -/
structure IsCalleeForest : Prop where
  /-- The calls on branches are those of the chains that are not too long. -/
  chains : ∀ calls,
    (∃ path, Branch trees path ∧ path.map CallNode.identifier = calls) ↔
      calls.length ≤ options.maxDepth + 1 ∧
        ∃ roots, (document.tracer options).CalleeChain document name roots calls
  /-- Around the calls on a branch are the best implementations of its chain. -/
  containers : ∀ path, Branch trees path →
    ∃ roots,
      (document.tracer options).CalleeChain document name roots (path.map CallNode.identifier) ∧
        path.map CallNode.container = roots.map some
  /-- A node has its position for its depth, and its target is what its call refers to. -/
  labels : ∀ path position (node : CallNode), Branch trees path → path[position]? = some node →
    node.depth = position ∧ node.direction = .downward ∧
      node.target = (document.tracer options).snapshot.target node.identifier
  /-- The roots are the calls inside the best implementation of the name. -/
  roots : trees.map CallNode.identifier = (document.tracer options).callsFrom document name
  /-- The children of a node above the greatest depth are the calls inside the best implementation
  of its target's name. -/
  children : ∀ path position (node : CallNode), Branch trees path → path[position]? = some node →
    node.children.map CallNode.identifier =
      if position < options.maxDepth then
        match node.target with
        | none => []
        | some callee => (document.tracer options).callsFrom document callee.name
      else
        []
  /-- The name of a target always has an implementation. -/
  implemented : ∀ path, Branch trees path → ∀ node ∈ path, ∀ callee, node.target = some callee →
    ∃ root, (document.tracer options).implementation callee.name = some root

/-- The trees are the callers of a name: all chains that the depth allows, with everything that
stands on their nodes, and all siblings in their order. -/
structure IsCallerForest : Prop where
  /-- The calls on branches are those of the chains that are not too long. -/
  chains : ∀ calls,
    (∃ path, Branch trees path ∧ path.map CallNode.identifier = calls) ↔
      calls.length ≤ options.maxDepth + 1 ∧
        (document.tracer options).CallerChain document name calls
  /-- A node has its position for its depth, around it is the first symbol with the number that its
  call gives, and its target is what its call refers to. -/
  labels : ∀ path position (node : CallNode), Branch trees path → path[position]? = some node →
    node.depth = position ∧ node.direction = .upward ∧
      (node.container = node.identifier.containerId.bind fun id =>
        document.symbols.find? fun symbol => symbol.id == id) ∧
      node.target = (document.tracer options).snapshot.target node.identifier
  /-- The roots are the calls of the name. -/
  roots : trees.map CallNode.identifier = document.callsNamed name options.caseSensitive
  /-- The children of a node above the greatest depth are the calls of the name of the symbol around
  it. -/
  children : ∀ path position (node : CallNode), Branch trees path → path[position]? = some node →
    node.children.map CallNode.identifier =
      if position < options.maxDepth then
        match node.container with
        | none => []
        | some caller => document.callsNamed caller.name options.caseSensitive
      else
        []

variable {document options name trees}

theorem isCalleeForest_trees (plain : options.suppressCycles = false) :
    document.IsCalleeForest options name (Answers.trees document.answer .downward name options) := by
  have allPlain : (document.tracer options).options.suppressCycles = false := plain
  let route := (document.tracer options).downwardRoute document.answer
  constructor
  case chains =>
    intro calls
    rw [Answers.trees, Route.exists_branch_iff]
    refine and_congr_right fun _ => ⟨?_, ?_⟩
    · rintro ⟨steps, chain, rfl⟩
      obtain ⟨roots, calleeChain, -⟩ := Tracer.calleeChain_of_chain allPlain chain
      exact ⟨roots, calleeChain⟩
    · rintro ⟨roots, chain⟩
      exact Tracer.chain_of_calleeChain allPlain chain []
  case containers =>
    intro path branch
    obtain ⟨steps, chain, -, rfl⟩ := route.branch_trees_iff.mp branch
    obtain ⟨roots, calleeChain, areRoots⟩ := Tracer.calleeChain_of_chain allPlain chain
    rw [Route.map_identifier_nodes, Route.map_container_nodes]
    exact ⟨roots, calleeChain, areRoots⟩
  case labels =>
    intro path position node branch isThere
    obtain ⟨place, call, -, rfl⟩ := route.exists_step_of_branch branch isThere
    exact ⟨Nat.zero_add position, rfl, rfl⟩
  case roots =>
    rw [Answers.trees, Route.map_identifier_trees, if_pos (Nat.succ_pos _)]
    exact Tracer.calls_downwardRoute_answer allPlain _
  case children =>
    intro path position node branch isThere
    obtain ⟨place, call, isFound, rfl⟩ := route.exists_step_of_branch branch isThere
    rw [Tracer.calls_downwardRoute_answer allPlain] at isFound
    obtain ⟨root, isBest, -⟩ := Tracer.exists_implementation_of_mem isFound
    rw [Route.map_identifier_children_node, Tracer.next_downwardRoute _ place isBest]
    refine if_congr Iff.rfl ?_ rfl
    change _ = match (document.tracer options).snapshot.target call with
      | none => []
      | some callee => (document.tracer options).callsFrom document callee.name
    cases (document.tracer options).snapshot.target call with
    | none => rfl
    | some callee => exact Tracer.calls_downwardRoute_answer allPlain _
  case implemented =>
    intro path branch node member callee refers
    obtain ⟨position, isThere⟩ := List.mem_iff_getElem?.mp member
    obtain ⟨place, call, -, rfl⟩ := route.exists_step_of_branch branch isThere
    exact Tracer.exists_implementation_of_target refers

theorem isCallerForest_trees (plain : options.suppressCycles = false) :
    document.IsCallerForest options name (Answers.trees document.answer .upward name options) := by
  have allPlain : (document.tracer options).options.suppressCycles = false := plain
  let route := (document.tracer options).upwardRoute document.answer
  constructor
  case chains =>
    intro calls
    rw [Answers.trees, Route.exists_branch_iff]
    refine and_congr_right fun _ => ⟨?_, ?_⟩
    · rintro ⟨steps, chain, rfl⟩
      exact Tracer.callerChain_of_chain allPlain chain
    · intro chain
      exact Tracer.chain_of_callerChain allPlain chain []
  case labels =>
    intro path position node branch isThere
    obtain ⟨place, call, -, rfl⟩ := route.exists_step_of_branch branch isThere
    exact ⟨Nat.zero_add position, rfl, Snapshot.container_ofList document.symbols call, rfl⟩
  case roots =>
    rw [Answers.trees, Route.map_identifier_trees, if_pos (Nat.succ_pos _)]
    exact Tracer.calls_upwardRoute_answer _
  case children =>
    intro path position node branch isThere
    obtain ⟨place, call, -, rfl⟩ := route.exists_step_of_branch branch isThere
    rw [Route.map_identifier_children_node, Tracer.next_upwardRoute_of_plain allPlain]
    refine if_congr Iff.rfl ?_ rfl
    change _ = match (document.tracer options).snapshot.container call with
      | none => []
      | some caller => document.callsNamed caller.name options.caseSensitive
    cases (document.tracer options).snapshot.container call with
    | none => rfl
    | some caller => exact Tracer.calls_upwardRoute_answer _

end IndexDocument

namespace CallPath

variable {document : IndexDocument} {ε : Type} {answer : (query : Query) → Except ε query.Answer}

/-- Over every store that holds a document and never fails, a trace of callees without suppression
comes to exactly the chains of callees that are not longer than the depth that the settings
allow. -/
theorem exists_calleeForest (held : document.IsHeldBy answer) (config : Config) (name : String)
    {options : TraceOptions} (plain : options.suppressCycles = false) :
    ∃ trees, (traceDownward config name options).outcome answer = .ok trees ∧
      document.IsCalleeForest (options.clamp config) name trees :=
  ⟨_, outcome_trace_of_isHeldBy held config .downward name options,
    IndexDocument.isCalleeForest_trees plain⟩

/-- Two methods that call each other, a declaration of one of them, a call of nothing known, a call
outside of all symbols, one inside a symbol that is missing, and a use that is no call. -/
def recursiveDocument : IndexDocument where
  symbols := [
    ⟨4, "Run", .ofText "method", "src/IRunner.cs", 1, 2⟩,
    ⟨1, "run", .ofText "method", "src/Runner.cs", 3, 12⟩,
    ⟨2, "step", .ofText "function", "src/Step.cs", 1, 6⟩]
  identifiers := [
    ⟨11, "step", .ofText "call", "src/Runner.cs", some 5, some 1, none⟩,
    ⟨12, "step", .ofText "import", "src/Runner.cs", some 1, some 1, some 2⟩,
    ⟨13, "RUN", .ofText "call", "src/Step.cs", some 4, some 2, some 4⟩,
    ⟨14, "print", .ofText "call", "src/Step.cs", some 5, some 2, none⟩,
    ⟨15, "run", .ofText "call", "src/Main.cs", some 2, none, none⟩,
    ⟨16, "run", .ofText "call", "src/Old.cs", none, some 99, some 1⟩]

theorem exists_calleeForest_recursive :
    let options : TraceOptions := ⟨40, true, false⟩
    options.suppressCycles = false ∧
      ∃ trees,
        (traceDownward default "run" options).outcome
            (fun query => (.ok (recursiveDocument.answer query) : Except Empty query.Answer)) =
          .ok trees ∧
        recursiveDocument.IsCalleeForest (options.clamp default) "run" trees :=
  ⟨rfl, exists_calleeForest (fun _ => rfl) default "run" rfl⟩

/-- Over every store that holds a document and never fails, a trace of callers without suppression
comes to exactly the chains of callers that are not longer than the depth that the settings
allow. -/
theorem exists_callerForest (held : document.IsHeldBy answer) (config : Config) (name : String)
    {options : TraceOptions} (plain : options.suppressCycles = false) :
    ∃ trees, (traceUpward config name options).outcome answer = .ok trees ∧
      document.IsCallerForest (options.clamp config) name trees :=
  ⟨_, outcome_trace_of_isHeldBy held config .upward name options,
    IndexDocument.isCallerForest_trees plain⟩

theorem exists_callerForest_recursive :
    let options : TraceOptions := ⟨3, false, false⟩
    options.suppressCycles = false ∧
      ∃ trees,
        (traceUpward default "step" options).outcome
            (fun query => (.ok (recursiveDocument.answer query) : Except Empty query.Answer)) =
          .ok trees ∧
        recursiveDocument.IsCallerForest (options.clamp default) "step" trees :=
  ⟨rfl, exists_callerForest (fun _ => rfl) default "step" rfl⟩

end CallPath

end CallTrace
