import CallTrace.Proofs.CallChain

/-!
# Traces of different depths

A trace to some depth finds the trees of every deeper trace without the nodes that are too deep: the
depth decides where the trees end, and nothing else about them.
-/

namespace CallTrace

namespace CallNode

mutual

/-- A tree without the nodes under it that are too deep. -/
def truncate (maxDepth : Nat) : CallNode → CallNode
  | ⟨identifier, container, target, depth, direction, children⟩ =>
    { identifier, container, target, depth, direction
      children := truncateAll maxDepth children }

/-- Trees without the nodes that are too deep. -/
def truncateAll (maxDepth : Nat) : List CallNode → List CallNode
  | [] => []
  | node :: rest =>
    if node.depth ≤ maxDepth then
      truncate maxDepth node :: truncateAll maxDepth rest
    else
      truncateAll maxDepth rest

end

/-- A node without anything under it. -/
def bare (node : CallNode) : CallNode :=
  { node with children := [] }

theorem truncate_eq (maxDepth : Nat) (node : CallNode) :
    truncate maxDepth node = { node with children := truncateAll maxDepth node.children } := by
  cases node
  rfl

@[simp]
theorem bare_truncate (maxDepth : Nat) (node : CallNode) :
    (truncate maxDepth node).bare = node.bare := by
  rw [truncate_eq]
  rfl

theorem truncateAll_eq (maxDepth : Nat) (nodes : List CallNode) :
    truncateAll maxDepth nodes =
      (nodes.filter fun node => node.depth ≤ maxDepth).map (truncate maxDepth) := by
  induction nodes with
  | nil => rfl
  | cons node rest ih =>
      rw [truncateAll]
      split
      next isAbove => rw [ih, List.filter_cons_of_pos (by simpa using isAbove), List.map_cons]
      next isBelow => rw [ih, List.filter_cons_of_neg (by simpa using isBelow)]

theorem truncateAll_eq_map {maxDepth : Nat} {nodes : List CallNode}
    (areAbove : ∀ node ∈ nodes, node.depth ≤ maxDepth) :
    truncateAll maxDepth nodes = nodes.map (truncate maxDepth) := by
  rw [truncateAll_eq, List.filter_eq_self.mpr (by simpa using areAbove)]

theorem truncateAll_eq_nil {maxDepth : Nat} {nodes : List CallNode}
    (areBelow : ∀ node ∈ nodes, maxDepth < node.depth) : truncateAll maxDepth nodes = [] := by
  rw [truncateAll_eq, List.filter_eq_nil_iff.mpr (by simpa using areBelow), List.map_nil]

end CallNode

namespace Route

variable {σ : Type} (route : Route σ)

/-- The trees on few levels are those on more levels without the nodes that are too deep. -/
theorem trees_eq_truncateAll (place : σ) (depth levels more : Nat) {maxDepth : Nat}
    (isLast : maxDepth + 1 = depth + levels) :
    route.trees place depth levels =
      CallNode.truncateAll maxDepth (route.trees place depth (levels + more)) := by
  induction levels generalizing place depth with
  | zero =>
      have areBelow : ∀ node ∈ route.trees place depth (0 + more), maxDepth < node.depth := by
        intro node isRoot
        rw [route.depth_of_mem_trees isRoot]
        omega
      rw [CallNode.truncateAll_eq_nil areBelow]
      rfl
  | succ levels ih =>
      have areAbove : ∀ node ∈ route.trees place depth (levels + 1 + more),
          node.depth ≤ maxDepth := by
        intro node isRoot
        rw [route.depth_of_mem_trees isRoot]
        omega
      rw [CallNode.truncateAll_eq_map areAbove, Nat.add_right_comm, trees_succ, trees_succ,
        List.map_map]
      refine List.map_congr_left fun call _ => ?_
      rw [Function.comp_apply, CallNode.truncate_eq]
      simp only [node, subtrees]
      congr 1
      cases route.next place call with
      | none => rfl
      | some next => exact ih next (depth + 1) (by omega)

end Route

namespace Answers

variable (answers : Answers) (direction : CallDirection) (name : String) (options : TraceOptions)

theorem route_withDepth (maxDepth : Nat) :
    (answers.tracer { options with maxDepth }).route answers direction =
      (answers.tracer options).route answers direction := by
  cases direction <;> rfl

theorem trees_eq_truncateAll {deep : Nat} (isShallower : options.maxDepth ≤ deep) :
    answers.trees direction name options =
      CallNode.truncateAll options.maxDepth
        (answers.trees direction name { options with maxDepth := deep }) := by
  obtain ⟨more, rfl⟩ := Nat.exists_eq_add_of_le isShallower
  rw [trees, trees, route_withDepth, Nat.add_right_comm]
  exact Route.trees_eq_truncateAll _ _ 0 _ more (Nat.zero_add _).symm

end Answers

namespace CallPath

/-- Over every store that never fails, a trace to some depth comes to the trees of a deeper trace
without the nodes that are too deep. The roots are the same, and under the nodes of that depth there
is nothing. -/
theorem shallow_eq_truncated {ε : Type} (answers : Answers) (direction : CallDirection)
    (name : String) (caseSensitive suppressCycles : Bool) {shallow deep : Nat}
    (isShallower : shallow ≤ deep) :
    let options (maxDepth : Nat) : TraceOptions := ⟨maxDepth, caseSensitive, suppressCycles⟩
    ∃ trees,
      (Tracer.trace direction name (options deep)).outcome (ε := ε) answers.store = .ok trees ∧
        (Tracer.trace direction name (options shallow)).outcome (ε := ε) answers.store =
          .ok (CallNode.truncateAll shallow trees) ∧
        (CallNode.truncateAll shallow trees).map CallNode.bare = trees.map CallNode.bare ∧
        ∀ path, CallNode.Branch (CallNode.truncateAll shallow trees) path → ∀ node ∈ path,
          node.depth ≤ shallow ∧ (node.depth = shallow → node.children = []) := by
  intro options
  have truncated : answers.trees direction name (options shallow) =
      CallNode.truncateAll shallow (answers.trees direction name (options deep)) :=
    answers.trees_eq_truncateAll direction name (options shallow) isShallower
  refine ⟨_, Tracer.outcome_trace answers direction name (options deep), ?_, ?_, ?_⟩
  · rw [← truncated]
    exact Tracer.outcome_trace answers direction name (options shallow)
  · have areAbove : ∀ node ∈ answers.trees direction name (options deep), node.depth ≤ shallow := by
      intro node isRoot
      rw [Route.depth_of_mem_trees _ isRoot]
      exact Nat.zero_le shallow
    rw [CallNode.truncateAll_eq_map areAbove, List.map_map]
    exact List.map_congr_left fun node _ => CallNode.bare_truncate shallow node
  · intro path branch node member
    rw [← truncated] at branch
    have isAbove : node.depth < 0 + (shallow + 1) := Route.depth_lt_of_branch _ branch member
    refine ⟨by omega, fun isDeepest => ?_⟩
    have isLast : node.depth + 1 = 0 + (shallow + 1) := by omega
    exact Route.children_eq_nil_of_branch _ branch member isLast

/-- Two methods that call each other, traced to two depths with cycles suppressed. -/
theorem shallow_eq_truncated_recursive :
    let options (maxDepth : Nat) : TraceOptions := ⟨maxDepth, false, true⟩
    (1 : Nat) ≤ 3 ∧
      ∃ trees,
        (Tracer.trace .upward "step" (options 3)).outcome (ε := Empty)
            (Answers.store recursiveDocument.answer) = .ok trees ∧
          (Tracer.trace .upward "step" (options 1)).outcome (ε := Empty)
              (Answers.store recursiveDocument.answer) = .ok (CallNode.truncateAll 1 trees) ∧
          (CallNode.truncateAll 1 trees).map CallNode.bare = trees.map CallNode.bare ∧
          ∀ path, CallNode.Branch (CallNode.truncateAll 1 trees) path → ∀ node ∈ path,
            node.depth ≤ 1 ∧ (node.depth = 1 → node.children = []) :=
  ⟨by decide,
    shallow_eq_truncated recursiveDocument.answer .upward "step" false true (by decide)⟩

end CallPath

end CallTrace
