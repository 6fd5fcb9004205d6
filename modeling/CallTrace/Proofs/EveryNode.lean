import CallTrace.Proofs.BothDirections
import CallTrace.Proofs.Ensuring
import CallTrace.Proofs.QueryLog

/-!
# What holds of every node

The nodes of call trees in preorder, and induction along them. A condition holds of every node to
which a trace comes if it holds of each node that the trace makes, as long as the store gives answers
of the sort that the condition needs. It does not matter how the two directions of a trace are
interleaved.
-/

namespace CallTrace

namespace CallNode

/-- Lists of trees have a property if the empty list has it, and if a tree before other trees has it
whenever the trees under it and those others have it. -/
@[elab_as_elim]
theorem forestInduction {motive : List CallNode → Prop} (nil : motive [])
    (cons : ∀ (node : CallNode) (rest : List CallNode),
      motive node.children → motive rest → motive (node :: rest)) :
    (nodes : List CallNode) → motive nodes
  | [] => nil
  | ⟨identifier, container, target, depth, direction, children⟩ :: rest =>
      cons ⟨identifier, container, target, depth, direction, children⟩ rest
        (forestInduction nil cons children) (forestInduction nil cons rest)
termination_by nodes => sizeOf nodes

/-- The nodes of some trees, each before those under it. -/
def inPreorder (trees : List CallNode) : List CallNode :=
  (preorderAll [] trees).map Prod.fst

theorem map_fst_preorderAll (above trees : List CallNode) :
    (preorderAll above trees).map Prod.fst = inPreorder trees := by
  have apart : ∀ first second : List CallNode,
      (preorderAll first trees).map Prod.fst = (preorderAll second trees).map Prod.fst := by
    induction trees using forestInduction with
    | nil => exact fun _ _ => rfl
    | cons node rest below beside =>
        intro first second
        simp only [preorderAll, preorder_eq, List.map_append, List.map_cons]
        rw [below (node :: first) (node :: second), beside first second]
  exact apart above []

@[simp]
theorem inPreorder_nil : inPreorder [] = [] :=
  rfl

@[simp]
theorem inPreorder_cons (node : CallNode) (rest : List CallNode) :
    inPreorder (node :: rest) = node :: (inPreorder node.children ++ inPreorder rest) := by
  rw [inPreorder, preorderAll, preorder_eq, List.map_append, List.map_cons, map_fst_preorderAll,
    map_fst_preorderAll, List.cons_append]

/-- A condition holds of every node of some trees. -/
def HoldsThroughout (condition : CallNode → Prop) (trees : List CallNode) : Prop :=
  ∀ node ∈ inPreorder trees, condition node

theorem holdsThroughout_iff {condition : CallNode → Prop} {trees : List CallNode} :
    HoldsThroughout condition trees ↔
      ∀ node ∈ trees, condition node ∧ HoldsThroughout condition node.children := by
  induction trees with
  | nil => simp [HoldsThroughout]
  | cons node rest ih =>
      rw [List.forall_mem_cons, ← ih]
      simp only [HoldsThroughout, inPreorder_cons, List.forall_mem_cons, List.forall_mem_append,
        and_assoc]

end CallNode

/-! ## Threads -/

namespace Thread

variable {ε α : Type} {admits : (query : Query) → query.Answer → Prop} {condition : α → Prop}

/-- Every value that a thread can come to is as said, as long as the store gives certain answers. -/
def EnsuresUnder (admits : (query : Query) → query.Answer → Prop) (condition : α → Prop) :
    Thread ε α → Prop
  | running rest => rest.EnsuresUnder admits condition
  | stopped _ => True

theorem Step.ensuresUnder {conditions : Conditions ε}
    (admitted : ∀ asked query answer,
      conditions.answer asked query = .ok answer → admits query answer)
    {progress reached : Progress} {thread later : Thread ε α}
    (step : Step conditions progress thread later reached)
    (ensures : thread.EnsuresUnder admits condition) : later.EnsuresUnder admits condition := by
  cases step with
  | goOn => exact ensures
  | stop => trivial
  | answered answers => exact ensures _ (admitted _ _ _ answers)
  | failed => trivial

theorem EnsuresUnder.of_result {thread : Thread ε α} {value : α}
    (ensures : thread.EnsuresUnder admits condition)
    (comes : thread.result? = some (.ok value)) : condition value := by
  cases thread with
  | running rest =>
      cases rest with
      | done known =>
          cases comes
          exact ensures
      | notFound name => cases comes
      | checkpoint next => cases comes
      | ask query next => cases comes
  | stopped fault => cases comes

end Thread

/-- What both threads ensure is kept in every interleaving. -/
theorem Threads.ensureUnder_interleaving {ε α β : Type}
    {admits : (query : Query) → query.Answer → Prop} {leftHolds : α → Prop} {rightHolds : β → Prop}
    {conditions : Conditions ε}
    (admitted : ∀ asked query answer,
      conditions.answer asked query = .ok answer → admits query answer)
    {threads last : Threads ε α β} (interleaving : threads.Interleaving conditions last)
    (left : threads.left.EnsuresUnder admits leftHolds)
    (right : threads.right.EnsuresUnder admits rightHolds) :
    last.left.EnsuresUnder admits leftHolds ∧ last.right.EnsuresUnder admits rightHolds := by
  induction interleaving with
  | refl => exact ⟨left, right⟩
  | tail _ step ih =>
      cases step with
      | left step => exact ⟨step.ensuresUnder admitted ih.1, ih.2⟩
      | right step => exact ⟨ih.1, step.ensuresUnder admitted ih.2⟩
      | cancel => exact ih

/-! ## The directions of a trace -/

namespace CallPath

theorem DirectionsEnsure.sideBySide {ε : Type} {admits : (query : Query) → query.Answer → Prop}
    {config : Config} {name : String} {options : TraceOptions} {condition : List CallNode → Prop}
    (ensure : DirectionsEnsure admits name (options.clamp config) condition)
    {conditions : Conditions ε}
    (admitted : ∀ asked query answer,
      conditions.answer asked query = .ok answer → admits query answer)
    {cancelledBefore : Bool} {path : CallPath} {progress : Progress}
    (sideBySide : SideBySide conditions config name options cancelledBefore (.ok path) progress) :
    path.IsMadeOf admits condition := by
  -- The result is an index of the relation, and `join` is no constructor.
  generalize isPath : (Except.ok path : Except (InquiryFault ε) CallPath) = result at sideBySide
  cases sideBySide with
  | unloaded => cases isPath
  | unknown => cases isPath
  | @traced _ _ target _ callers callees loads isBest interleaving come =>
      obtain ⟨symbols, listed, rfl⟩ := Inquiry.ensuresUnder_snapshot.of_conduct admitted loads
      obtain ⟨rfl, rfl, rfl⟩ := join_eq_ok_iff.mp isPath.symm
      obtain ⟨above, below⟩ := Threads.ensureUnder_interleaving admitted interleaving
        (ensure.follow symbols listed .upward) (ensure.follow symbols listed .downward)
      exact ⟨⟨symbols, listed, mem_of_implementation isBest⟩, above.of_result come.left_result,
        below.of_result come.right_result⟩

end CallPath

/-! ## Nodes of traces -/

open CallNode (HoldsThroughout holdsThroughout_iff)

/-- A condition holds of each node that a trace makes from certain answers of the store. Of what is
under a node it may only say that nothing is under a downward one without a target. -/
structure Tracer.HoldsOfMade (admits : (query : Query) → query.Answer → Prop)
    (condition : CallNode → Prop) : Prop where
  /-- Nodes of traces of callers. -/
  upward : ∀ symbols name caseSensitive found, admits .allSymbols symbols →
    admits (.identifiersNamed name caseSensitive) found → ∀ call ∈ found, ∀ depth children,
      condition ⟨call, (Snapshot.ofList symbols).container call,
        (Snapshot.ofList symbols).target call, depth, .upward, children⟩
  /-- Nodes of traces of callees. -/
  downward : ∀ symbols found, admits .allSymbols symbols → ∀ root ∈ symbols,
    admits (.identifiersWithin root.id) found → ∀ call ∈ found, ∀ depth children,
      ((Snapshot.ofList symbols).target call = none → children = []) →
        condition ⟨call, some root, (Snapshot.ofList symbols).target call, depth, .downward,
          children⟩

namespace Tracer.HoldsOfMade

variable {admits : (query : Query) → query.Answer → Prop} {condition : CallNode → Prop}
  (holds : HoldsOfMade admits condition)
include holds

/-- It holds of every node to which either direction of a trace comes. -/
theorem directionsEnsure (name : String) (options : TraceOptions) :
    CallPath.DirectionsEnsure admits name options (HoldsThroughout condition) where
  follow symbols admitted direction := by
    refine .mono (fun _ => holdsThroughout_iff.mpr) ?_
    cases direction with
    | upward =>
        refine ensuresUnder_callers ⟨.ofList symbols, options⟩
          (fun _ node => condition node ∧ HoldsThroughout condition node.children) ?_
          name [] (Nat.zero_add _).le
        intro name found depth foundAdmitted _ call isFound children below
        exact ⟨holds.upward symbols name _ found admitted foundAdmitted call isFound depth children,
          holdsThroughout_iff.mpr below⟩
    | downward =>
        refine ensuresUnder_callees ⟨.ofList symbols, options⟩
          (fun _ node => condition node ∧ HoldsThroughout condition node.children) ?_
          name [] (Nat.zero_add _).le
        intro name root found depth isBest foundAdmitted _ call isFound children ends below
        have isListed := CallPath.mem_of_implementation isBest
        exact ⟨holds.downward symbols found admitted root isListed foundAdmitted call isFound depth
          children ends, holdsThroughout_iff.mpr below⟩

end Tracer.HoldsOfMade

end CallTrace
