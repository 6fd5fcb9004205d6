import CallTrace.CallPath.Trace
import CallTrace.Inquiry.Conduct
import CallTrace.Proofs.Holding
import CallTrace.Proofs.Route

/-!
# The trees of a trace

Over a store that never fails, a trace comes to the trees of a route: the route from a name through
its calls to the names of their callers, or the route from a name through the calls inside its best
implementation to the names of their targets. When the store holds a document, the calls are those
of the document.
-/

namespace CallTrace

namespace Inquiry

variable {ε α β : Type}

theorem outcome_bind_of_ok {answer : (query : Query) → Except ε query.Answer}
    {inquiry : Inquiry α} {value : α} (first : inquiry.outcome answer = .ok value)
    (continuation : α → Inquiry β) :
    (inquiry >>= continuation).outcome answer = (continuation value).outcome answer := by
  rw [outcome_bind, first]
  rfl

theorem outcome_forEach {answer : (query : Query) → Except ε query.Answer} {items : List α}
    {inquiry : α → Inquiry β} {value : α → β}
    (each : ∀ item ∈ items, (inquiry item).outcome answer = .ok (value item)) :
    (forEach items inquiry).outcome answer = .ok (items.map value) := by
  induction items with
  | nil => rfl
  | cons item rest ih =>
      have first := each item (.head _)
      have others := ih fun later member => each later (.tail _ member)
      rw [forEach, outcome_bind_of_ok first, outcome_bind_of_ok others, outcome_pure, List.map_cons]

end Inquiry

/-- What a store that never fails answers to the queries. -/
abbrev Answers : Type :=
  (query : Query) → query.Answer

/-- The store that gives certain answers and never fails. -/
def Answers.store {ε : Type} (answers : Answers) (query : Query) : Except ε query.Answer :=
  .ok (answers query)

theorem Answers.outcome_query {ε : Type} (answers : Answers) (query : Query) :
    (Inquiry.query query).outcome (ε := ε) answers.store = .ok (answers query) :=
  Inquiry.outcome_query _ query

namespace IndexDocument

/-- The calls of a name, exactly or up to case. -/
def callsNamed (document : IndexDocument) (name : String) (caseSensitive : Bool) :
    List Identifier :=
  document.identifiers.filter fun identifier =>
    identifier.isCall && Text.namesMatch identifier.name name caseSensitive

/-- The calls inside the symbol with a number. -/
def callsWithin (document : IndexDocument) (id : Int64) : List Identifier :=
  document.identifiers.filter fun identifier =>
    identifier.isCall && identifier.containerId == some id

theorem filter_isCall_answer_named (document : IndexDocument) (name : String)
    (caseSensitive : Bool) :
    List.filter Identifier.isCall (document.answer (.identifiersNamed name caseSensitive)) =
      document.callsNamed name caseSensitive :=
  List.filter_filter

theorem filter_isCall_answer_within (document : IndexDocument) (id : Int64) :
    List.filter Identifier.isCall (document.answer (.identifiersWithin id)) =
      document.callsWithin id :=
  List.filter_filter

theorem IsHeldBy.eq_store {document : IndexDocument} {ε : Type}
    {answer : (query : Query) → Except ε query.Answer} (held : document.IsHeldBy answer) :
    answer = Answers.store document.answer :=
  funext held

end IndexDocument

namespace Tracer

theorem suppresses_of_plain {tracer : Tracer} (plain : tracer.options.suppressCycles = false)
    (branch : List Int64) (symbol : Symbol) : tracer.suppresses branch symbol = false := by
  rw [suppresses, plain, Bool.false_and]

theorem suppresses_of_suppressCycles {tracer : Tracer}
    (suppresses : tracer.options.suppressCycles = true) (branch : List Int64) (symbol : Symbol) :
    tracer.suppresses branch symbol = branch.contains symbol.id := by
  rw [Tracer.suppresses, suppresses, Bool.true_and]

/-- Where a trace has come to. -/
structure Place where
  /-- The name that is traced from there. -/
  name : String
  /-- The numbers of the symbols on the way there. -/
  branch : List Int64

variable (tracer : Tracer)

/-- The way from names to their callers over a store. -/
def upwardRoute (answers : Answers) : Route Place where
  direction := .upward
  calls place :=
    List.filter Identifier.isCall
      (answers (.identifiersNamed place.name tracer.options.caseSensitive))
  container _ call := tracer.snapshot.container call
  target := tracer.snapshot.target
  next place call :=
    match tracer.snapshot.container call with
    | none => none
    | some caller =>
      if tracer.suppresses place.branch caller then
        none
      else
        some ⟨caller.name, caller.id :: place.branch⟩

/-- The way from names to their callees over a store. -/
def downwardRoute (answers : Answers) : Route Place where
  direction := .downward
  calls place :=
    match tracer.implementation place.name with
    | none => []
    | some root =>
      if tracer.suppresses place.branch root then
        []
      else
        List.filter Identifier.isCall (answers (.identifiersWithin root.id))
  container place _ := tracer.implementation place.name
  target := tracer.snapshot.target
  next place call :=
    match tracer.implementation place.name, tracer.snapshot.target call with
    | some root, some callee => some ⟨callee.name, root.id :: place.branch⟩
    | _, _ => none

/-- The way from names to their callers or callees over a store. -/
def route (answers : Answers) : CallDirection → Route Place
  | .upward => tracer.upwardRoute answers
  | .downward => tracer.downwardRoute answers

variable {ε : Type} (answers : Answers)

@[simp]
theorem container_upwardRoute (place : Place) (call : Identifier) :
    (tracer.upwardRoute answers).container place call = tracer.snapshot.container call :=
  rfl

@[simp]
theorem container_downwardRoute (place : Place) (call : Identifier) :
    (tracer.downwardRoute answers).container place call = tracer.implementation place.name :=
  rfl

@[simp]
theorem target_downwardRoute (call : Identifier) :
    (tracer.downwardRoute answers).target call = tracer.snapshot.target call :=
  rfl

theorem next_upwardRoute (place : Place) (call : Identifier) :
    (tracer.upwardRoute answers).next place call =
      match tracer.snapshot.container call with
      | none => none
      | some caller =>
        if tracer.suppresses place.branch caller then
          none
        else
          some ⟨caller.name, caller.id :: place.branch⟩ :=
  rfl

/-- From a call a trace goes up to the callers of the symbol around it, unless it passes over that
symbol. -/
theorem subtrees_upwardRoute (place : Place) (depth levels : Nat) (call : Identifier) :
    (tracer.upwardRoute answers).subtrees place depth levels call =
      match tracer.snapshot.container call with
      | none => []
      | some caller =>
        if tracer.suppresses place.branch caller then
          []
        else
          (tracer.upwardRoute answers).trees ⟨caller.name, caller.id :: place.branch⟩ depth
            levels := by
  rw [Route.subtrees, next_upwardRoute]
  cases tracer.snapshot.container call with
  | none => rfl
  | some caller => cases isPassed : tracer.suppresses place.branch caller <;> simp [isPassed]

/-- From a call inside a symbol a trace goes down to the callees of the symbol it refers to. -/
theorem subtrees_downwardRoute {place : Place} {root : Symbol}
    (isBest : tracer.implementation place.name = some root) (depth levels : Nat)
    (call : Identifier) :
    (tracer.downwardRoute answers).subtrees place depth levels call =
      match tracer.snapshot.target call with
      | none => []
      | some callee =>
        (tracer.downwardRoute answers).trees ⟨callee.name, root.id :: place.branch⟩ depth
          levels := by
  simp only [Route.subtrees, downwardRoute, isBest]
  cases tracer.snapshot.target call <;> rfl

theorem calls_downwardRoute (place : Place) :
    (tracer.downwardRoute answers).calls place =
      match tracer.implementation place.name with
      | none => []
      | some root =>
        if tracer.suppresses place.branch root then
          []
        else
          List.filter Identifier.isCall (answers (.identifiersWithin root.id)) :=
  rfl

theorem outcome_callers (place : Place) (depth levels : Nat) :
    (tracer.callers place.name depth place.branch levels).outcome (ε := ε) answers.store =
      .ok ((tracer.upwardRoute answers).trees place depth levels) := by
  induction levels generalizing place depth with
  | zero => rfl
  | succ levels ih =>
      have found := answers.outcome_query (ε := ε)
        (.identifiersNamed place.name tracer.options.caseSensitive)
      rw [callers, Inquiry.outcome_bind_of_ok (Inquiry.outcome_pause _),
        Inquiry.outcome_bind_of_ok found, Route.trees_succ]
      refine Inquiry.outcome_forEach fun call _ => ?_
      rw [Route.node, subtrees_upwardRoute, container_upwardRoute]
      simp only
      cases tracer.snapshot.container call with
      | none => rfl
      | some caller =>
          simp only
          split
          · rfl
          · rw [Inquiry.outcome_bind_of_ok
              (ih ⟨caller.name, caller.id :: place.branch⟩ (depth + 1))]
            rfl

theorem outcome_callees (place : Place) (depth levels : Nat) :
    (tracer.callees place.name depth place.branch levels).outcome (ε := ε) answers.store =
      .ok ((tracer.downwardRoute answers).trees place depth levels) := by
  induction levels generalizing place depth with
  | zero => rfl
  | succ levels ih =>
      rw [callees, Route.trees_succ, calls_downwardRoute]
      cases implementation : tracer.implementation place.name with
      | none => rfl
      | some root =>
          simp only
          split
          · rfl
          · have found := answers.outcome_query (ε := ε) (.identifiersWithin root.id)
            rw [Inquiry.outcome_bind_of_ok (Inquiry.outcome_pause _),
              Inquiry.outcome_bind_of_ok found]
            refine Inquiry.outcome_forEach fun call _ => ?_
            rw [Route.node, subtrees_downwardRoute _ _ implementation, container_downwardRoute,
              target_downwardRoute, implementation]
            cases tracer.snapshot.target call with
            | none => rfl
            | some callee =>
                simp only
                rw [Inquiry.outcome_bind_of_ok
                  (ih ⟨callee.name, root.id :: place.branch⟩ (depth + 1))]
                rfl

theorem outcome_follow (direction : CallDirection) (name : String) :
    (tracer.follow direction name).outcome (ε := ε) answers.store =
      .ok ((tracer.route answers direction).trees ⟨name, []⟩ 0 (tracer.options.maxDepth + 1)) := by
  cases direction with
  | upward => exact tracer.outcome_callers answers ⟨name, []⟩ 0 _
  | downward => exact tracer.outcome_callees answers ⟨name, []⟩ 0 _

end Tracer

namespace Answers

variable (answers : Answers)

/-- The tracer over a store. -/
def tracer (options : TraceOptions) : Tracer where
  snapshot := .ofList (answers .allSymbols)
  options := options

/-- The trees that a trace finds over a store. -/
def trees (direction : CallDirection) (name : String) (options : TraceOptions) : List CallNode :=
  ((answers.tracer options).route answers direction).trees ⟨name, []⟩ 0 (options.maxDepth + 1)

end Answers

/-- The tracer of a document. -/
def IndexDocument.tracer (document : IndexDocument) (options : TraceOptions) : Tracer :=
  Answers.tracer document.answer options

variable {ε : Type}

theorem Inquiry.outcome_snapshot (answers : Answers) :
    Inquiry.snapshot.outcome (ε := ε) answers.store =
      .ok (Snapshot.ofList (answers .allSymbols)) := by
  rw [Inquiry.snapshot, Inquiry.outcome_bind_of_ok (Inquiry.outcome_pause _),
    Inquiry.outcome_bind_of_ok (answers.outcome_query .allSymbols)]
  rfl

/-- A trace comes to the trees of its route. -/
theorem Tracer.outcome_trace (answers : Answers) (direction : CallDirection) (name : String)
    (options : TraceOptions) :
    (trace direction name options).outcome (ε := ε) answers.store =
      .ok (answers.trees direction name options) := by
  rw [trace, Inquiry.outcome_bind_of_ok (Inquiry.outcome_snapshot answers)]
  exact (answers.tracer options).outcome_follow answers direction name

namespace CallPath

/-- A trace under some settings comes to the trees of its route that are not too deep for them. -/
theorem outcome_trace (answers : Answers) (config : Config) (direction : CallDirection)
    (name : String) (options : TraceOptions) :
    (trace config direction name options).outcome (ε := ε) answers.store =
      .ok (answers.trees direction name (options.clamp config)) :=
  Tracer.outcome_trace answers direction name _

/-- Over a store that holds a document a trace comes to the trees of the document. -/
theorem outcome_trace_of_isHeldBy {document : IndexDocument}
    {answer : (query : Query) → Except ε query.Answer} (held : document.IsHeldBy answer)
    (config : Config) (direction : CallDirection) (name : String) (options : TraceOptions) :
    (trace config direction name options).outcome answer =
      .ok (Answers.trees document.answer direction name (options.clamp config)) := by
  rw [held.eq_store]
  exact outcome_trace document.answer config direction name options

end CallPath

end CallTrace
