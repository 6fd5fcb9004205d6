import CallTrace.Proofs.CallTree
import CallTrace.Proofs.Snapshot

/-!
# Whether the case of names matters

A trace looks up the traced name and, on every level below, the name of a symbol that it has come
to, and either the case of all these names matters or that of none. So it is not enough for two
traces to be equal, one with and one without regard to case, that the traced name is looked up
alike: the names of the symbols below have to be looked up alike too.
-/

namespace CallTrace

/-! ## Routes that agree -/

namespace Route

variable {σ : Type}

/-- Two routes go the same way from all places of some kind and lead to places of that kind only. -/
structure AgreesOn (left right : Route σ) (kind : σ → Prop) : Prop where
  /-- They follow calls the same way. -/
  direction : left.direction = right.direction
  /-- Calls refer to the same symbols. -/
  target : left.target = right.target
  /-- The same calls are found. -/
  calls : ∀ place, kind place → left.calls place = right.calls place
  /-- The same symbols are around them. -/
  container : ∀ place, kind place → left.container place = right.container place
  /-- They lead to the same places. -/
  next : ∀ place, kind place → left.next place = right.next place
  /-- The places to which they lead are of the kind. -/
  stays : ∀ place call after, kind place → right.next place call = some after → kind after

theorem AgreesOn.trees {left right : Route σ} {kind : σ → Prop} (agrees : left.AgreesOn right kind)
    {place : σ} (isOfKind : kind place) (depth levels : Nat) :
    left.trees place depth levels = right.trees place depth levels := by
  induction levels generalizing place depth with
  | zero => rfl
  | succ levels ih =>
      rw [trees_succ, trees_succ, agrees.calls place isOfKind]
      refine List.map_congr_left fun call _ => ?_
      have subtrees : left.subtrees place (depth + 1) levels call =
          right.subtrees place (depth + 1) levels call := by
        rw [Route.subtrees, Route.subtrees, agrees.next place isOfKind]
        cases leads : right.next place call with
        | none => rfl
        | some after => exact ih (agrees.stays place call after isOfKind leads) (depth + 1)
      rw [node, node, subtrees, agrees.direction, agrees.target,
        agrees.container place isOfKind]

/-- The calls of the places to which the calls of a place lead. -/
def secondCalls (route : Route σ) (place : σ) : List (List Identifier) :=
  (route.calls place).map fun call => ((route.next place call).map route.calls).getD []

/-- Under the roots stand the calls of the places to which they lead, if there is a level for
them. -/
theorem map_children_trees (route : Route σ) (place : σ) (depth levels : Nat) :
    (route.trees place depth (levels + 2)).map (fun node => node.children.map CallNode.identifier) =
      route.secondCalls place := by
  rw [trees_succ, List.map_map]
  refine List.map_congr_left fun call _ => ?_
  rw [Function.comp_apply, children_node, map_identifier_subtrees, if_pos (Nat.succ_pos levels)]

end Route

/-! ## Names that are looked up alike -/

/-- The options with or without regard to case. -/
def TraceOptions.withCase (options : TraceOptions) (caseSensitive : Bool) : TraceOptions :=
  { options with caseSensitive }

namespace Answers

variable (answers : Answers)

/-- A name is looked up alike with and without regard to case: for its callers the calls of the name
are the same, and for its callees its best implementation is. -/
def LooksUpAlike : CallDirection → String → Prop
  | .upward, name =>
      List.filter Identifier.isCall (answers (.identifiersNamed name true)) =
        List.filter Identifier.isCall (answers (.identifiersNamed name false))
  | .downward, name =>
      let snapshot := Snapshot.ofList (answers .allSymbols)
      Symbol.bestImplementation (snapshot.matching name true) =
        Symbol.bestImplementation (snapshot.matching name false)

variable {answers}

/-- When the names of all symbols are looked up alike, a trace goes the same way with and without
regard to case from every name that is looked up alike. -/
theorem route_agreesOn {direction : CallDirection}
    (below : ∀ symbol ∈ answers .allSymbols, answers.LooksUpAlike direction symbol.name)
    (options : TraceOptions) :
    ((answers.tracer (options.withCase true)).route answers direction).AgreesOn
      ((answers.tracer (options.withCase false)).route answers direction)
      fun place => answers.LooksUpAlike direction place.name := by
  cases direction with
  | upward =>
      refine ⟨rfl, rfl, fun _ alike => alike, fun _ _ => rfl, fun _ _ => rfl, ?_⟩
      intro place call after _ leads
      rw [Tracer.route, Tracer.next_upwardRoute] at leads
      split at leads
      · cases leads
      · rename_i caller isAround
        obtain ⟨id, -, found⟩ := Option.bind_eq_some_iff.mp isAround
        split at leads
        · cases leads
        · cases leads
          exact below caller (Snapshot.mem_of_get?_ofList found)
  | downward =>
      have implementation (place : Tracer.Place)
          (alike : answers.LooksUpAlike .downward place.name) :
          (answers.tracer (options.withCase true)).implementation place.name =
            (answers.tracer (options.withCase false)).implementation place.name := alike
      refine ⟨rfl, rfl, fun place alike => ?_, fun place alike => ?_, fun place alike => ?_, ?_⟩
      · simp only [Tracer.route, Tracer.calls_downwardRoute, implementation place alike]
        rfl
      · funext call
        exact implementation place alike
      · funext call
        simp only [Tracer.route, Tracer.downwardRoute, implementation place alike]
        rfl
      · intro place call after _ leads
        simp only [Tracer.route, Tracer.downwardRoute] at leads
        split at leads
        · rename_i root callee isBest refers
          cases leads
          exact below callee (Snapshot.mem_of_target_ofList refers)
        · cases leads

end Answers

namespace CallPath

/-- Where the traced name and the names of all symbols are looked up alike with and without regard to
case, a trace comes to the same with and without it. -/
theorem trace_withCase {ε : Type} {answers : Answers} {direction : CallDirection} {name : String}
    (alike : answers.LooksUpAlike direction name)
    (below : ∀ symbol ∈ answers .allSymbols, answers.LooksUpAlike direction symbol.name)
    (config : Config) (options : TraceOptions) :
    (trace config direction name (options.withCase true)).outcome (ε := ε) answers.store =
      (trace config direction name (options.withCase false)).outcome (ε := ε) answers.store := by
  rw [outcome_trace, outcome_trace]
  exact congrArg Except.ok ((Answers.route_agreesOn below (options.clamp config)).trees alike 0 _)

/-- Functions that call each other, and a use of a name in another case that is no call. -/
def importingDocument : IndexDocument where
  symbols := [
    ⟨1, "flush", .ofText "fn", "a.rs", 1, 2⟩,
    ⟨2, "Save", .ofText "fn", "a.rs", 3, 9⟩,
    ⟨4, "main", .ofText "fn", "a.rs", 31, 60⟩]
  identifiers := [
    ⟨10, "flush", .ofText "call", "a.rs", none, some 2, none⟩,
    ⟨11, "Save", .ofText "call", "a.rs", none, some 4, none⟩,
    ⟨13, "SAVE", .ofText "import", "a.rs", none, some 4, some 2⟩,
    ⟨14, "main", .ofText "call", "a.rs", none, some 1, none⟩]

theorem trace_withCase_importing :
    let answers : Answers := importingDocument.answer
    answers.LooksUpAlike .upward "flush" ∧
      (∀ symbol ∈ answers .allSymbols, answers.LooksUpAlike .upward symbol.name) ∧
      (trace default .upward "flush" (TraceOptions.withCase ⟨7, false, true⟩ true)).outcome
          (ε := Empty) answers.store =
        (trace default .upward "flush" (TraceOptions.withCase ⟨7, false, true⟩ false)).outcome
          answers.store := by
  have alike : Answers.LooksUpAlike importingDocument.answer .upward "flush" := by
    rw [Answers.LooksUpAlike]
    decide +kernel
  have below : ∀ symbol ∈ importingDocument.symbols,
      Answers.LooksUpAlike importingDocument.answer .upward symbol.name := by
    simp only [Answers.LooksUpAlike]
    decide +kernel
  exact ⟨alike, below, trace_withCase alike below default ⟨7, false, true⟩⟩

/-! ## Names that are not -/

/-- Two functions whose names differ in case only, one of them called and both calling. -/
def capitalizedDocument : IndexDocument where
  symbols := [
    ⟨1, "flush", .ofText "fn", "a.rs", 1, 2⟩,
    ⟨2, "Save", .ofText "fn", "a.rs", 3, 9⟩,
    ⟨3, "save", .ofText "fn", "a.rs", 10, 30⟩,
    ⟨4, "main", .ofText "fn", "a.rs", 31, 60⟩]
  identifiers := [
    ⟨10, "flush", .ofText "call", "a.rs", none, some 2, none⟩,
    ⟨11, "save", .ofText "call", "a.rs", none, some 4, none⟩,
    ⟨12, "flush", .ofText "call", "a.rs", none, some 3, none⟩]

private theorem byIncreasingId_capitalized :
    Snapshot.byIncreasingId capitalizedDocument.symbols = capitalizedDocument.symbols :=
  List.mergeSort_of_pairwise (by decide)

private theorem secondCalls_eq_of_outcome {answers : Answers} {direction : CallDirection}
    {name : String} (options : TraceOptions) (isDeep : 0 < options.maxDepth)
    (same : (Tracer.trace direction name (options.withCase true)).outcome (ε := Empty)
        answers.store =
      (Tracer.trace direction name (options.withCase false)).outcome answers.store) :
    ((answers.tracer (options.withCase true)).route answers direction).secondCalls ⟨name, []⟩ =
      ((answers.tracer (options.withCase false)).route answers direction).secondCalls
        ⟨name, []⟩ := by
  rw [Tracer.outcome_trace, Tracer.outcome_trace] at same
  obtain ⟨levels, isDepth⟩ := Nat.exists_eq_add_one_of_ne_zero (Nat.ne_of_gt isDeep)
  have children := congrArg
    (List.map fun node : CallNode => node.children.map CallNode.identifier) (Except.ok.inj same)
  simpa only [Answers.trees, TraceOptions.withCase, isDepth, Route.map_children_trees]
    using children

/-- Traces with and without regard to case differ below the traced name, though it is looked up alike:
the callers of `Save` are found by its name with regard to case, and so is its implementation. -/
theorem trace_withCase_ne :
    let answers : Answers := capitalizedDocument.answer
    let options : TraceOptions := ⟨1, false, false⟩
    (answers.LooksUpAlike .upward "flush" ∧
      (trace default .upward "flush" (options.withCase true)).outcome (ε := Empty) answers.store ≠
        (trace default .upward "flush" (options.withCase false)).outcome answers.store) ∧
      answers.LooksUpAlike .downward "main" ∧
        (trace default .downward "main" (options.withCase true)).outcome (ε := Empty)
            answers.store ≠
          (trace default .downward "main" (options.withCase false)).outcome answers.store := by
  refine ⟨⟨?_, fun same => ?_⟩, ?_, fun same => ?_⟩
  · rw [Answers.LooksUpAlike]
    decide +kernel
  · have second := secondCalls_eq_of_outcome ⟨1, false, false⟩ Nat.one_pos same
    revert second
    simp only [Route.secondCalls, Tracer.route, Tracer.upwardRoute, Answers.tracer,
      Snapshot.container_ofList]
    decide +kernel
  · simp only [Answers.LooksUpAlike, Snapshot.matching_ofList, IndexDocument.answer,
      byIncreasingId_capitalized]
    decide +kernel
  · have second := secondCalls_eq_of_outcome ⟨1, false, false⟩ Nat.one_pos same
    revert second
    simp only [Route.secondCalls, Tracer.route, Tracer.downwardRoute, Tracer.implementation,
      Answers.tracer, Snapshot.target, Snapshot.get?_ofList, Snapshot.named_ofList,
      Snapshot.matching_ofList, IndexDocument.answer, byIncreasingId_capitalized]
    decide +kernel

end CallPath

end CallTrace
