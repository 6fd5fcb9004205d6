import CallTrace.Proofs.CallTree
import CallTrace.Reference.Search

/-!
# Guarded inquiries

A guarded inquiry sees whether it has been cancelled before each of its queries, and at no other
moment, and it always comes to a value when its queries do. Traces of one direction and searches for
references are guarded. A trace of callers asks only for identifiers with a name once it has its
snapshot, a trace of callees only for identifiers inside a symbol.
-/

namespace CallTrace

/-- What a query is about, apart from its arguments. -/
inductive Query.Kind where
  /-- All symbols. -/
  | allSymbols
  /-- Identifiers with a name. -/
  | identifiersNamed
  /-- Identifiers inside a symbol. -/
  | identifiersWithin
deriving DecidableEq, Repr

/-- The kind of a query. -/
def Query.kind : Query → Query.Kind
  | allSymbols => .allSymbols
  | identifiersNamed _ _ => .identifiersNamed
  | identifiersWithin _ => .identifiersWithin

namespace Inquiry

variable {ε α β : Type}

theorem outcome_ask {answers : Answers} (query : Query) (next : query.Answer → Inquiry α) :
    (ask query next).outcome (ε := ε) answers.store =
      (next (answers query)).outcome answers.store :=
  (conduct_steady answers.store (next (answers query)) [query]).1

/-- An inquiry with a checkpoint right before each query and nowhere else, whose queries are
allowed, and which does not end without a value. -/
inductive IsGuarded (allowed : Query → Prop) {α : Type} : Inquiry α → Prop
  /-- The value is known. -/
  | done (value : α) : IsGuarded allowed (done value)
  /-- A checkpoint, a query, and what is guarded whatever the answer is. -/
  | ask {query : Query} {next : query.Answer → Inquiry α} (isAllowed : allowed query)
      (guarded : ∀ answer, IsGuarded allowed (next answer)) :
      IsGuarded allowed (checkpoint (ask query next))

namespace IsGuarded

variable {allowed : Query → Prop}

theorem mono {others : Query → Prop} (isWider : ∀ query, allowed query → others query)
    {inquiry : Inquiry α} (guarded : inquiry.IsGuarded allowed) : inquiry.IsGuarded others := by
  induction guarded with
  | done value => exact .done value
  | ask isAllowed _ ih => exact .ask (isWider _ isAllowed) ih

theorem bind {inquiry : Inquiry α} {continuation : α → Inquiry β}
    (first : inquiry.IsGuarded allowed)
    (second : ∀ value, (continuation value).IsGuarded allowed) :
    (inquiry >>= continuation).IsGuarded allowed := by
  induction first with
  | done value => exact second value
  | ask isAllowed _ ih => exact .ask isAllowed ih

theorem pause_query {query : Query} {next : query.Answer → Inquiry α} (isAllowed : allowed query)
    (guarded : ∀ answer, (next answer).IsGuarded allowed) :
    (do Inquiry.pause; let answer ← Inquiry.query query; next answer : Inquiry α).IsGuarded
      allowed :=
  .ask isAllowed guarded

theorem forEach {items : List α} {inquiry : α → Inquiry β}
    (each : ∀ item, (inquiry item).IsGuarded allowed) :
    (Inquiry.forEach items inquiry).IsGuarded allowed := by
  induction items with
  | nil => exact .done []
  | cons item rest ih => exact (each item).bind fun _ => ih.bind fun _ => .done _

/-- Over a store that never fails, a guarded inquiry comes to a value. -/
theorem exists_outcome {inquiry : Inquiry α} (guarded : inquiry.IsGuarded allowed)
    (answers : Answers) : ∃ value, inquiry.outcome (ε := ε) answers.store = .ok value := by
  induction guarded with
  | done value => exact ⟨value, rfl⟩
  | @ask query next _ _ ih =>
      obtain ⟨value, comes⟩ := ih (answers query)
      exact ⟨value, (outcome_ask query next).trans comes⟩

end IsGuarded

theorem isGuarded_snapshot {allowed : Query → Prop} (isAllowed : allowed .allSymbols) :
    snapshot.IsGuarded allowed :=
  .pause_query isAllowed fun _ => .done _

/-! ## The queries that are asked -/

/-- The queries of an inquiry over a store that never fails, in the order in which they are
asked. -/
def queries (answers : Answers) : Inquiry α → List Query
  | done _ => []
  | notFound _ => []
  | checkpoint next => next.queries answers
  | ask query next => query :: (next (answers query)).queries answers

variable {answers : Answers}

@[simp]
theorem queries_pure (value : α) : (pure value : Inquiry α).queries answers = [] :=
  rfl

/-- Over a store that never fails, an inquiry asks its queries and comes to its outcome. -/
theorem conduct_store (inquiry : Inquiry α) (asked : List Query) :
    inquiry.conduct (ε := ε) (.steady answers.store) ⟨asked, false⟩ =
      (inquiry.outcome answers.store, ⟨(inquiry.queries answers).reverse ++ asked, false⟩) := by
  induction inquiry generalizing asked with
  | done value => rfl
  | notFound name => rfl
  | checkpoint next ih => exact ih asked
  | ask query next ih =>
      rw [outcome_ask, queries, List.reverse_cons, List.append_assoc, List.singleton_append]
      exact ih (answers query) (query :: asked)

theorem queries_bind {inquiry : Inquiry α} {value : α}
    (first : inquiry.outcome (ε := ε) answers.store = .ok value)
    (continuation : α → Inquiry β) :
    (inquiry >>= continuation).queries answers =
      inquiry.queries answers ++ (continuation value).queries answers := by
  induction inquiry with
  | done known =>
      cases first
      rfl
  | notFound name => cases first
  | checkpoint next ih => exact ih first
  | ask query next ih =>
      rw [outcome_ask] at first
      exact congrArg (query :: ·) (ih (answers query) first)

theorem queries_bind_pure (inquiry : Inquiry α) (make : α → β) :
    (inquiry >>= fun value => pure (make value)).queries answers = inquiry.queries answers := by
  induction inquiry with
  | done value => rfl
  | notFound name => rfl
  | checkpoint next ih => exact ih
  | ask query next ih => exact congrArg (query :: ·) (ih (answers query))

theorem queries_pause_query (query : Query) (next : query.Answer → Inquiry α) :
    (do Inquiry.pause; let answer ← Inquiry.query query; next answer : Inquiry α).queries answers =
      query :: (next (answers query)).queries answers :=
  rfl

theorem queries_forEach {allowed : Query → Prop} {items : List α} {inquiry : α → Inquiry β}
    (each : ∀ item, (inquiry item).IsGuarded allowed) :
    (forEach items inquiry).queries answers =
      items.flatMap fun item => (inquiry item).queries answers := by
  induction items with
  | nil => rfl
  | cons item rest ih =>
      obtain ⟨value, comes⟩ := (each item).exists_outcome (ε := Empty) answers
      rw [forEach, queries_bind comes, queries_bind_pure, ih, List.flatMap_cons]

end Inquiry

namespace Tracer

variable (tracer : Tracer)

/-! ## Traces of callers -/

/-- What leads to the symbol around a call. -/
def callersAround (depth : Nat) (branch : List Int64) (levels : Nat) (call : Identifier) :
    Inquiry (List CallNode) :=
  match tracer.snapshot.container call with
  | none => pure []
  | some caller =>
    if tracer.suppresses branch caller then
      pure []
    else
      tracer.callers caller.name (depth + 1) (caller.id :: branch) levels

/-- A call, with what leads to the symbol around it. -/
def callerNode (depth : Nat) (branch : List Int64) (levels : Nat) (call : Identifier) :
    Inquiry CallNode := do
  let children ← tracer.callersAround depth branch levels call
  return {
    identifier := call, container := tracer.snapshot.container call,
    target := tracer.snapshot.target call, depth, direction := .upward, children }

theorem callers_succ (name : String) (depth : Nat) (branch : List Int64) (levels : Nat) :
    tracer.callers name depth branch (levels + 1) = (do
      Inquiry.pause
      let found ← Inquiry.query (.identifiersNamed name tracer.options.caseSensitive)
      Inquiry.forEach (found.filter Identifier.isCall)
        (tracer.callerNode depth branch levels)) := by
  rw [callers]
  refine bind_congr fun _ => bind_congr fun found => congrArg _ (funext fun call => ?_)
  rw [callerNode, callersAround]
  cases tracer.snapshot.container call with
  | none => rfl
  | some caller =>
      simp only
      split <;> rfl

theorem isGuarded_callerNode {allowed : Query → Prop} {levels : Nat}
    (below : ∀ name depth branch, (tracer.callers name depth branch levels).IsGuarded allowed)
    (depth : Nat) (branch : List Int64) (call : Identifier) :
    (tracer.callerNode depth branch levels call).IsGuarded allowed := by
  refine Inquiry.IsGuarded.bind ?_ fun _ => .done _
  unfold callersAround
  split
  · exact .done []
  · split
    · exact .done []
    · exact below _ _ _

theorem isGuarded_callers (name : String) (depth : Nat) (branch : List Int64) (levels : Nat) :
    (tracer.callers name depth branch levels).IsGuarded fun query =>
      query.kind = .identifiersNamed := by
  induction levels generalizing name depth branch with
  | zero => exact .done []
  | succ levels ih =>
      rw [callers_succ]
      exact .pause_query rfl fun _ => .forEach (tracer.isGuarded_callerNode ih depth branch)

/-! ## Traces of callees -/

/-- What the symbol leads to that a call inside a root refers to. -/
def calleesBehind (root : Symbol) (depth : Nat) (branch : List Int64) (levels : Nat)
    (call : Identifier) : Inquiry (List CallNode) :=
  match tracer.snapshot.target call with
  | none => pure []
  | some callee => tracer.callees callee.name (depth + 1) (root.id :: branch) levels

/-- A call inside a root, with what the symbol leads to that it refers to. -/
def calleeNode (root : Symbol) (depth : Nat) (branch : List Int64) (levels : Nat)
    (call : Identifier) : Inquiry CallNode := do
  let children ← tracer.calleesBehind root depth branch levels call
  return {
    identifier := call, container := some root, target := tracer.snapshot.target call, depth,
    direction := .downward, children }

theorem callees_succ (name : String) (depth : Nat) (branch : List Int64) (levels : Nat) :
    tracer.callees name depth branch (levels + 1) =
      (match tracer.implementation name with
      | none => pure []
      | some root =>
        if tracer.suppresses branch root then
          pure []
        else do
          Inquiry.pause
          let found ← Inquiry.query (.identifiersWithin root.id)
          Inquiry.forEach (found.filter Identifier.isCall)
            (tracer.calleeNode root depth branch levels)) := by
  rw [callees]
  cases tracer.implementation name with
  | none => rfl
  | some root =>
      refine if_congr Iff.rfl rfl ?_
      refine bind_congr fun _ => bind_congr fun found => congrArg _ (funext fun call => ?_)
      rw [calleeNode, calleesBehind]
      cases tracer.snapshot.target call <;> rfl

theorem isGuarded_calleeNode {allowed : Query → Prop} {levels : Nat}
    (below : ∀ name depth branch, (tracer.callees name depth branch levels).IsGuarded allowed)
    (root : Symbol) (depth : Nat) (branch : List Int64) (call : Identifier) :
    (tracer.calleeNode root depth branch levels call).IsGuarded allowed := by
  refine Inquiry.IsGuarded.bind ?_ fun _ => .done _
  unfold calleesBehind
  split
  · exact .done []
  · exact below _ _ _

theorem isGuarded_callees (name : String) (depth : Nat) (branch : List Int64) (levels : Nat) :
    (tracer.callees name depth branch levels).IsGuarded fun query =>
      query.kind = .identifiersWithin := by
  induction levels generalizing name depth branch with
  | zero => exact .done []
  | succ levels ih =>
      rw [callees_succ]
      split
      · exact .done []
      · split
        · exact .done []
        · exact .pause_query rfl fun _ => .forEach (tracer.isGuarded_calleeNode ih _ depth branch)

end Tracer

end CallTrace
