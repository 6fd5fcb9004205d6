import CallTrace.CallPath.Node

/-!
# Routes and their trees

A route says which calls are found at a place and to which place each of them leads. Its trees have
a node for every call, and under it the trees of the place to which the call leads, down to some
depth. The branches of the trees are the chains of calls that the route allows, and no others.
-/

namespace CallTrace

/-- The nodes from a root of some trees down to one of their nodes. -/
inductive CallNode.Branch : List CallNode → List CallNode → Prop
  /-- A root. -/
  | root {trees : List CallNode} {node : CallNode} (isRoot : node ∈ trees) : Branch trees [node]
  /-- A root and a branch of the trees under it. -/
  | descend {trees rest : List CallNode} {node : CallNode} (isRoot : node ∈ trees)
      (branch : Branch node.children rest) : Branch trees (node :: rest)

theorem CallNode.Branch.mem_of_head {trees path : List CallNode} {node : CallNode}
    (branch : Branch trees path) (isHead : path[0]? = some node) : node ∈ trees := by
  cases branch with
  | root isRoot =>
      cases isHead
      exact isRoot
  | descend isRoot _ =>
      cases isHead
      exact isRoot

/-- How a trace goes from place to place. -/
structure Route (σ : Type) where
  /-- Which way the trace follows calls. -/
  direction : CallDirection
  /-- The calls that are found at a place. -/
  calls : σ → List Identifier
  /-- The symbol around a call. -/
  container : σ → Identifier → Option Symbol
  /-- The symbol that a call refers to. -/
  target : Identifier → Option Symbol
  /-- The place to which a call leads. -/
  next : σ → Identifier → Option σ

namespace Route

variable {σ : Type} (route : Route σ)

/-- The trees of a place, on so many levels. -/
def trees (place : σ) (depth : Nat) : Nat → List CallNode
  | 0 => []
  | levels + 1 =>
    (route.calls place).map fun call =>
      { identifier := call
        container := route.container place call
        target := route.target call
        depth
        direction := route.direction
        children :=
          match route.next place call with
          | none => []
          | some next => trees next (depth + 1) levels }

/-- The trees under a call, on so many levels. -/
def subtrees (place : σ) (depth levels : Nat) (call : Identifier) : List CallNode :=
  match route.next place call with
  | none => []
  | some next => route.trees next depth levels

/-- The node of a call, with so many levels under it. -/
def node (place : σ) (depth levels : Nat) (call : Identifier) : CallNode where
  identifier := call
  container := route.container place call
  target := route.target call
  depth := depth
  direction := route.direction
  children := route.subtrees place (depth + 1) levels call

@[simp]
theorem container_node (place : σ) (depth levels : Nat) (call : Identifier) :
    (route.node place depth levels call).container = route.container place call :=
  rfl

@[simp]
theorem target_node (place : σ) (depth levels : Nat) (call : Identifier) :
    (route.node place depth levels call).target = route.target call :=
  rfl

@[simp]
theorem depth_node (place : σ) (depth levels : Nat) (call : Identifier) :
    (route.node place depth levels call).depth = depth :=
  rfl

@[simp]
theorem children_node (place : σ) (depth levels : Nat) (call : Identifier) :
    (route.node place depth levels call).children =
      route.subtrees place (depth + 1) levels call :=
  rfl

theorem trees_succ (place : σ) (depth levels : Nat) :
    route.trees place depth (levels + 1) =
      (route.calls place).map (route.node place depth levels) :=
  rfl

theorem map_identifier_trees (place : σ) (depth levels : Nat) :
    (route.trees place depth levels).map CallNode.identifier =
      if 0 < levels then route.calls place else [] := by
  cases levels with
  | zero => rfl
  | succ levels =>
      rw [trees_succ, List.map_map, if_pos (Nat.succ_pos levels)]
      exact List.map_id _

theorem map_identifier_subtrees (place : σ) (depth levels : Nat) (call : Identifier) :
    (route.subtrees place depth levels call).map CallNode.identifier =
      if 0 < levels then ((route.next place call).map route.calls).getD [] else [] := by
  rw [subtrees]
  cases route.next place call with
  | none => simp
  | some next => exact route.map_identifier_trees next depth levels

theorem map_identifier_children_node (place : σ) (depth maxDepth position : Nat)
    (call : Identifier) :
    (route.node place depth (maxDepth + 1 - (position + 1)) call).children.map
        CallNode.identifier =
      if position < maxDepth then ((route.next place call).map route.calls).getD [] else [] := by
  have isAbove : 0 < maxDepth + 1 - (position + 1) ↔ position < maxDepth := by omega
  rw [node, map_identifier_subtrees]
  simp only [isAbove]

/-! ## Chains -/

/-- Calls that lead on from one to the next, each with the place where it is found. -/
inductive Chain : σ → List (σ × Identifier) → Prop
  /-- One call. -/
  | last {place : σ} {call : Identifier} (isFound : call ∈ route.calls place) :
      Chain place [(place, call)]
  /-- A call and a chain from the place to which it leads. -/
  | step {place next : σ} {call : Identifier} {rest : List (σ × Identifier)}
      (isFound : call ∈ route.calls place) (leads : route.next place call = some next)
      (chain : Chain next rest) : Chain place ((place, call) :: rest)

variable {route} in
theorem Chain.isFound {place : σ} {steps : List (σ × Identifier)}
    (chain : route.Chain place steps) : ∀ step ∈ steps, step.2 ∈ route.calls step.1 := by
  induction chain with
  | last isFound => simpa using isFound
  | step isFound leads chain ih =>
      intro step member
      rcases List.mem_cons.mp member with rfl | later
      · exact isFound
      · exact ih step later

/-- The nodes of a chain, on so many levels. -/
def nodes (depth levels : Nat) : List (σ × Identifier) → List CallNode
  | [] => []
  | step :: rest =>
    route.node step.1 depth (levels - 1) step.2 :: nodes (depth + 1) (levels - 1) rest

theorem map_identifier_nodes (depth levels : Nat) (steps : List (σ × Identifier)) :
    (route.nodes depth levels steps).map CallNode.identifier = steps.map Prod.snd := by
  induction steps generalizing depth levels with
  | nil => rfl
  | cons step rest ih => rw [nodes, List.map_cons, List.map_cons, ih, node]

theorem map_container_nodes (depth levels : Nat) (steps : List (σ × Identifier)) :
    (route.nodes depth levels steps).map CallNode.container =
      steps.map fun step => route.container step.1 step.2 := by
  induction steps generalizing depth levels with
  | nil => rfl
  | cons step rest ih => rw [nodes, List.map_cons, List.map_cons, ih, node]

theorem getElem?_nodes (depth levels : Nat) (steps : List (σ × Identifier)) (position : Nat) :
    (route.nodes depth levels steps)[position]? =
      steps[position]?.map fun step =>
        route.node step.1 (depth + position) (levels - (position + 1)) step.2 := by
  induction steps generalizing depth levels position with
  | nil => rfl
  | cons step rest ih =>
      cases position with
      | zero => rfl
      | succ position =>
          have sameDepth : depth + 1 + position = depth + (position + 1) := by omega
          have sameLevels : levels - 1 - (position + 1) = levels - (position + 1 + 1) := by omega
          rw [nodes, List.getElem?_cons_succ, List.getElem?_cons_succ, ih, sameDepth, sameLevels]

/-- The branches of the trees are the chains that fit on their levels. -/
theorem branch_trees_iff {place : σ} {depth levels : Nat} {path : List CallNode} :
    CallNode.Branch (route.trees place depth levels) path ↔
      ∃ steps, route.Chain place steps ∧ steps.length ≤ levels ∧
        path = route.nodes depth levels steps := by
  constructor
  · intro branch
    induction path generalizing place depth levels with
    | nil => cases branch
    | cons node rest ih =>
        cases levels with
        | zero => cases branch <;> contradiction
        | succ levels =>
            rw [trees_succ] at branch
            cases branch with
            | root isRoot =>
                obtain ⟨call, isFound, rfl⟩ := List.mem_map.mp isRoot
                exact ⟨[(place, call)], .last isFound, Nat.succ_pos levels, rfl⟩
            | descend isRoot branch =>
                obtain ⟨call, isFound, rfl⟩ := List.mem_map.mp isRoot
                cases leads : route.next place call with
                | none =>
                    simp only [node, subtrees, leads] at branch
                    cases branch <;> contradiction
                | some next =>
                    simp only [node, subtrees, leads] at branch
                    obtain ⟨steps, chain, fits, rfl⟩ := ih branch
                    exact ⟨(place, call) :: steps, .step isFound leads chain,
                      Nat.succ_le_succ fits, rfl⟩
  · rintro ⟨steps, chain, fits, rfl⟩
    induction chain generalizing depth levels with
    | last isFound =>
        cases levels with
        | zero => cases fits
        | succ levels =>
            rw [trees_succ]
            exact .root (List.mem_map_of_mem isFound)
    | @step place next call rest isFound leads chain ih =>
        cases levels with
        | zero => cases fits
        | succ levels =>
            rw [trees_succ]
            have branch : CallNode.Branch (route.trees next (depth + 1) levels)
                (route.nodes (depth + 1) levels rest) := ih (Nat.le_of_succ_le_succ fits)
            refine .descend (List.mem_map_of_mem isFound) ?_
            simpa only [node, subtrees, leads, Nat.add_sub_cancel] using branch

/-- A node on a branch is that of a call, and its position tells how many levels are under it. -/
theorem exists_step_of_branch {place : σ} {depth levels position : Nat} {path : List CallNode}
    {node : CallNode} (branch : CallNode.Branch (route.trees place depth levels) path)
    (isThere : path[position]? = some node) :
    ∃ reached call, call ∈ route.calls reached ∧
      node = route.node reached (depth + position) (levels - (position + 1)) call := by
  obtain ⟨steps, chain, -, rfl⟩ := route.branch_trees_iff.mp branch
  rw [getElem?_nodes] at isThere
  obtain ⟨step, isStep, rfl⟩ := Option.map_eq_some_iff.mp isThere
  exact ⟨step.1, step.2, chain.isFound step (List.mem_of_getElem? isStep), rfl⟩

/-- Calls stand on a branch when they are those of a chain that fits on the levels. -/
theorem exists_branch_iff {place : σ} {depth levels : Nat} {calls : List Identifier} :
    (∃ path, CallNode.Branch (route.trees place depth levels) path ∧
        path.map CallNode.identifier = calls) ↔
      calls.length ≤ levels ∧ ∃ steps, route.Chain place steps ∧ steps.map Prod.snd = calls := by
  constructor
  · rintro ⟨path, branch, rfl⟩
    obtain ⟨steps, chain, fits, rfl⟩ := route.branch_trees_iff.mp branch
    rw [map_identifier_nodes, List.length_map]
    exact ⟨fits, steps, chain, rfl⟩
  · rintro ⟨fits, steps, chain, rfl⟩
    rw [List.length_map] at fits
    exact ⟨_, route.branch_trees_iff.mpr ⟨steps, chain, fits, rfl⟩,
      route.map_identifier_nodes depth levels steps⟩

/-! ## Depths -/

theorem depth_of_mem_trees {place : σ} {depth levels : Nat} {node : CallNode}
    (isRoot : node ∈ route.trees place depth levels) : node.depth = depth := by
  cases levels with
  | zero => cases isRoot
  | succ levels =>
      obtain ⟨call, -, rfl⟩ := List.mem_map.mp isRoot
      rfl

/-- The nodes of a branch are those of calls, on one level after the other. -/
theorem exists_level_of_mem {place : σ} {depth levels : Nat} {path : List CallNode}
    {node : CallNode} (branch : CallNode.Branch (route.trees place depth levels) path)
    (member : node ∈ path) :
    ∃ position < levels, ∃ reached call,
      node = route.node reached (depth + position) (levels - (position + 1)) call := by
  obtain ⟨position, isThere⟩ := List.mem_iff_getElem?.mp member
  obtain ⟨reached, call, -, rfl⟩ := route.exists_step_of_branch branch isThere
  obtain ⟨steps, -, fits, rfl⟩ := route.branch_trees_iff.mp branch
  have isWithin : position < steps.length := by
    have isLess := (List.getElem?_eq_some_iff.mp isThere).1
    rwa [← List.length_map (f := CallNode.identifier), map_identifier_nodes, List.length_map]
      at isLess
  exact ⟨position, by omega, reached, call, rfl⟩

theorem depth_lt_of_branch {place : σ} {depth levels : Nat} {path : List CallNode}
    {node : CallNode} (branch : CallNode.Branch (route.trees place depth levels) path)
    (member : node ∈ path) : node.depth < depth + levels := by
  obtain ⟨position, isLess, reached, call, rfl⟩ := route.exists_level_of_mem branch member
  exact Nat.add_lt_add_left isLess depth

/-- The nodes of the least depth are the roots. -/
theorem depth_eq_iff_of_branch {place : σ} {depth levels : Nat} {path : List CallNode}
    {node : CallNode} (branch : CallNode.Branch (route.trees place depth levels) path)
    (member : node ∈ path) : node.depth = depth ↔ node ∈ route.trees place depth levels := by
  constructor
  · intro isLeast
    obtain ⟨position, isThere⟩ := List.mem_iff_getElem?.mp member
    obtain ⟨reached, call, -, rfl⟩ := route.exists_step_of_branch branch isThere
    obtain rfl : position = 0 := Nat.add_eq_left.mp isLeast
    exact branch.mem_of_head isThere
  · exact route.depth_of_mem_trees

theorem children_eq_nil_of_branch {place : σ} {depth levels : Nat} {path : List CallNode}
    {node : CallNode} (branch : CallNode.Branch (route.trees place depth levels) path)
    (member : node ∈ path) (isDeepest : node.depth + 1 = depth + levels) : node.children = [] := by
  obtain ⟨position, isLess, reached, call, rfl⟩ := route.exists_level_of_mem branch member
  have isLast : levels - (position + 1) = 0 := by
    simp only [Route.node] at isDeepest
    omega
  simp only [Route.node, isLast, subtrees]
  cases route.next reached call <;> rfl

end Route

end CallTrace
