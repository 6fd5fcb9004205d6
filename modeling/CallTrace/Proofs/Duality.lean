import CallTrace.Proofs.CallChain

/-!
# Callers and callees in unambiguous indexes

Where a number and a name stand for one symbol each, a call leads from the symbol around it to the
symbol that has its name, whichever way it is followed. So the chains of callees from one symbol to
another are the chains of callers from the other symbol to the first, read backwards.
-/

namespace CallTrace

open CallNode (Branch)

/-- What stands on the last node of a path is known from its last call, when on every node it is
known from the call. -/
theorem CallNode.bind_getLast? {path : List CallNode} {label : CallNode → Option Symbol}
    {labelOf : Identifier → Option Symbol}
    (labelled : ∀ node ∈ path, label node = labelOf node.identifier) :
    path.getLast?.bind label = (path.map CallNode.identifier).getLast?.bind labelOf := by
  rw [List.getLast?_map, Option.bind_map]
  cases isLast : path.getLast? with
  | none => rfl
  | some node => exact labelled node (List.mem_of_getLast? isLast)

namespace IndexDocument

/-- Every number and every name up to case stands for one symbol, and calls that give the number of
a symbol have its name. -/
structure IsUnambiguous (document : IndexDocument) : Prop where
  /-- No two symbols have the same number. -/
  ids : (document.symbols.map Symbol.id).Nodup
  /-- No two symbols have the same name up to case. -/
  names : (document.symbols.map fun symbol => Text.lowercase symbol.name).Nodup
  /-- A call that gives the number of a symbol has the name of that symbol up to case. -/
  targets : ∀ call ∈ document.identifiers, call.isCall = true → ∀ symbol ∈ document.symbols,
    call.targetId = some symbol.id → Text.lowercase symbol.name = Text.lowercase call.name

variable {document : IndexDocument}

theorem mem_callsWithin {call : Identifier} {id : Int64} :
    call ∈ document.callsWithin id ↔
      (call ∈ document.identifiers ∧ call.isCall = true) ∧ call.containerId = some id := by
  rw [callsWithin, List.mem_filter, Bool.and_eq_true, beq_iff_eq, and_assoc]

theorem mem_callsNamed {call : Identifier} {name : String} :
    call ∈ document.callsNamed name false ↔
      (call ∈ document.identifiers ∧ call.isCall = true) ∧
        Text.lowercase name = Text.lowercase call.name := by
  rw [callsNamed, List.mem_filter, Bool.and_eq_true, Text.namesMatch, beq_iff_eq, and_assoc,
    eq_comm (a := Text.lowercase name)]
  rfl

/-! ## Calls from symbol to symbol -/

/-- A call inside one symbol of the document that has the name of another one up to case. -/
structure Calls (document : IndexDocument) (caller : Symbol) (call : Identifier)
    (callee : Symbol) : Prop where
  /-- The call is one of the document. -/
  isListed : call ∈ document.identifiers ∧ call.isCall = true
  /-- The first symbol is one of the document. -/
  fromListed : caller ∈ document.symbols
  /-- The call gives the number of the first symbol. -/
  isWithin : call.containerId = some caller.id
  /-- The other symbol is one of the document. -/
  toListed : callee ∈ document.symbols
  /-- The call has the name of the other symbol. -/
  isNamed : Text.lowercase callee.name = Text.lowercase call.name

/-- Calls that lead from one symbol to another, each from where the one before it leads. -/
inductive Linked (document : IndexDocument) : Symbol → List Identifier → Symbol → Prop
  /-- One call. -/
  | single {caller callee : Symbol} {call : Identifier}
      (link : document.Calls caller call callee) : Linked document caller [call] callee
  /-- A call, and calls from where it leads. -/
  | step {caller middle callee : Symbol} {call : Identifier} {calls : List Identifier}
      (link : document.Calls caller call middle) (rest : Linked document middle calls callee) :
      Linked document caller (call :: calls) callee

theorem Linked.snoc {caller middle callee : Symbol} {call : Identifier} {calls : List Identifier}
    (linked : document.Linked caller calls middle) (link : document.Calls middle call callee) :
    document.Linked caller (calls ++ [call]) callee := by
  induction linked with
  | single first => exact .step first (.single link)
  | step first _ ih => exact .step first (ih link)

namespace IsUnambiguous

variable (unambiguous : document.IsUnambiguous) {symbol other : Symbol} {call : Identifier}
include unambiguous

theorem eq_of_name (isListed : symbol ∈ document.symbols) (otherListed : other ∈ document.symbols)
    (sameName : Text.lowercase symbol.name = Text.lowercase other.name) : symbol = other :=
  List.inj_on_of_nodup_map unambiguous.names isListed otherListed sameName

theorem container_eq_some_iff :
    (Snapshot.ofList document.symbols).container call = some symbol ↔
      symbol ∈ document.symbols ∧ call.containerId = some symbol.id := by
  simp only [Snapshot.container_ofList, Option.bind_eq_some_iff,
    Snapshot.find?_id_eq_some_iff unambiguous.ids]
  constructor
  · rintro ⟨id, isWithin, isListed, rfl⟩
    exact ⟨isListed, isWithin⟩
  · rintro ⟨isListed, isWithin⟩
    exact ⟨symbol.id, isWithin, isListed, rfl⟩

theorem named_of_target (isListed : call ∈ document.identifiers ∧ call.isCall = true)
    (refers : (Snapshot.ofList document.symbols).target call = some symbol) :
    Text.lowercase symbol.name = Text.lowercase call.name := by
  rw [Snapshot.target, Option.or_eq_some_iff] at refers
  rcases refers with given | ⟨-, chosen⟩
  · obtain ⟨id, isGiven, found⟩ := Option.bind_eq_some_iff.mp given
    rw [Snapshot.get?_ofList] at found
    obtain ⟨symbolListed, rfl⟩ := (Snapshot.find?_id_eq_some_iff unambiguous.ids).mp found
    exact unambiguous.targets call isListed.1 isListed.2 symbol symbolListed isGiven
  · have isNamed := Identifier.mem_of_choose chosen
    rw [Snapshot.named_ofList] at isNamed
    simpa using List.of_mem_filter isNamed

/-- A call refers to the symbol that has its name. -/
theorem target_eq_some_iff (isListed : call ∈ document.identifiers ∧ call.isCall = true) :
    (Snapshot.ofList document.symbols).target call = some symbol ↔
      symbol ∈ document.symbols ∧ Text.lowercase symbol.name = Text.lowercase call.name := by
  constructor
  · intro refers
    exact ⟨Snapshot.mem_of_target_ofList refers, unambiguous.named_of_target isListed refers⟩
  · rintro ⟨symbolListed, isNamed⟩
    cases refers : (Snapshot.ofList document.symbols).target call with
    | none =>
        have isCandidate : symbol ∈ (Snapshot.ofList document.symbols).matching call.name false :=
          Snapshot.mem_matching_ofList.mpr ⟨symbolListed, beq_iff_eq.mpr isNamed⟩
        obtain ⟨chosen, isChosen⟩ := call.exists_choose (List.ne_nil_of_mem isCandidate)
        have isNone := (Option.or_eq_none_iff.mp refers).2
        exact absurd (isNone.symm.trans isChosen) (by simp)
    | some other =>
        have otherListed := Snapshot.mem_of_target_ofList refers
        have otherNamed := unambiguous.named_of_target isListed refers
        rw [unambiguous.eq_of_name otherListed symbolListed (otherNamed.trans isNamed.symm)]

/-- The calls from a symbol are those inside it, and lead to what they refer to. -/
theorem calls_iff_within {caller callee : Symbol} :
    document.Calls caller call callee ↔
      caller ∈ document.symbols ∧ call ∈ document.callsWithin caller.id ∧
        (Snapshot.ofList document.symbols).target call = some callee := by
  constructor
  · intro link
    exact ⟨link.fromListed, mem_callsWithin.mpr ⟨link.isListed, link.isWithin⟩,
      (unambiguous.target_eq_some_iff link.isListed).mpr ⟨link.toListed, link.isNamed⟩⟩
  · rintro ⟨fromListed, isCall, refers⟩
    obtain ⟨isListed, isWithin⟩ := mem_callsWithin.mp isCall
    obtain ⟨toListed, isNamed⟩ := (unambiguous.target_eq_some_iff isListed).mp refers
    exact ⟨isListed, fromListed, isWithin, toListed, isNamed⟩

/-- The calls to a symbol are those of its name, and come from what is around them. -/
theorem calls_iff_named {caller callee : Symbol} :
    document.Calls caller call callee ↔
      callee ∈ document.symbols ∧ call ∈ document.callsNamed callee.name false ∧
        (Snapshot.ofList document.symbols).container call = some caller := by
  constructor
  · intro link
    exact ⟨link.toListed, mem_callsNamed.mpr ⟨link.isListed, link.isNamed⟩,
      unambiguous.container_eq_some_iff.mpr ⟨link.fromListed, link.isWithin⟩⟩
  · rintro ⟨toListed, isCall, isAround⟩
    obtain ⟨isListed, isNamed⟩ := mem_callsNamed.mp isCall
    obtain ⟨fromListed, isWithin⟩ := unambiguous.container_eq_some_iff.mp isAround
    exact ⟨isListed, fromListed, isWithin, toListed, isNamed⟩

theorem implementation_name (maxDepth : Nat) (suppressCycles : Bool)
    (isListed : symbol ∈ document.symbols) :
    (document.tracer ⟨maxDepth, false, suppressCycles⟩).implementation symbol.name =
      some symbol := by
  have isCandidate := Snapshot.mem_matching_self isListed false
  obtain ⟨best, isBest⟩ := Symbol.exists_bestImplementation (List.ne_nil_of_mem isCandidate)
  obtain ⟨bestListed, matchesName⟩ :=
    Snapshot.mem_matching_ofList.mp (Symbol.mem_of_bestImplementation isBest)
  have sameName : Text.lowercase best.name = Text.lowercase symbol.name := beq_iff_eq.mp matchesName
  rw [← unambiguous.eq_of_name bestListed isListed sameName] at isBest ⊢
  exact isBest

end IsUnambiguous

end IndexDocument

namespace Tracer

variable {tracer : Tracer} {document : IndexDocument} {name : String} {calls : List Identifier}

theorem CalleeChain.ne_nil {roots : List Symbol}
    (chain : tracer.CalleeChain document name roots calls) : calls ≠ [] := by
  cases chain <;> exact List.cons_ne_nil _ _

theorem CallerChain.ne_nil (chain : tracer.CallerChain document name calls) : calls ≠ [] := by
  cases chain <;> exact List.cons_ne_nil _ _

theorem CallerChain.snoc {caller : Symbol} {call : Identifier}
    (chain : tracer.CallerChain document name calls)
    (isWithin : calls.getLast?.bind tracer.snapshot.container = some caller)
    (isCall : call ∈ document.callsNamed caller.name tracer.options.caseSensitive) :
    tracer.CallerChain document name (calls ++ [call]) := by
  induction chain with
  | last isFirst => exact .step isFirst isWithin (.last isCall)
  | step isFirst isAround chain ih =>
      rw [List.getLast?_cons_of_ne_nil chain.ne_nil] at isWithin
      exact .step isFirst isAround (ih isWithin)

end Tracer

namespace IndexDocument

variable {document : IndexDocument} {maxDepth : Nat} {caller callee : Symbol}
  {calls : List Identifier}

namespace IsUnambiguous

variable (unambiguous : document.IsUnambiguous)
include unambiguous

theorem linked_of_calleeChain {name : String} {roots : List Symbol}
    (chain : (document.tracer ⟨maxDepth, false, false⟩).CalleeChain document name roots calls)
    (isName : name = caller.name) (isListed : caller ∈ document.symbols)
    (refers : calls.getLast?.bind (Snapshot.ofList document.symbols).target = some callee) :
    document.Linked caller calls callee := by
  induction chain generalizing caller with
  | last isBest isCall =>
      rw [isName, unambiguous.implementation_name _ _ isListed] at isBest
      cases isBest
      exact .single (unambiguous.calls_iff_within.mpr ⟨isListed, isCall, refers⟩)
  | step isBest isCall leads chain ih =>
      rw [isName, unambiguous.implementation_name _ _ isListed] at isBest
      cases isBest
      rw [List.getLast?_cons_of_ne_nil chain.ne_nil] at refers
      have link := unambiguous.calls_iff_within.mpr ⟨isListed, isCall, leads⟩
      exact .step link (ih rfl link.toListed refers)

theorem calleeChain_of_linked (linked : document.Linked caller calls callee) :
    (∃ roots, (document.tracer ⟨maxDepth, false, false⟩).CalleeChain document caller.name roots
        calls) ∧
      calls.getLast?.bind (Snapshot.ofList document.symbols).target = some callee := by
  induction linked with
  | single link =>
      obtain ⟨fromListed, isCall, refers⟩ := unambiguous.calls_iff_within.mp link
      exact ⟨⟨_, .last (unambiguous.implementation_name _ _ fromListed) isCall⟩, refers⟩
  | step link _ ih =>
      obtain ⟨fromListed, isCall, leads⟩ := unambiguous.calls_iff_within.mp link
      obtain ⟨⟨roots, chain⟩, refers⟩ := ih
      rw [List.getLast?_cons_of_ne_nil chain.ne_nil]
      exact ⟨⟨_, .step (unambiguous.implementation_name _ _ fromListed) isCall leads chain⟩, refers⟩

theorem linked_of_callerChain {name : String}
    (chain : (document.tracer ⟨maxDepth, false, false⟩).CallerChain document name calls)
    (isName : name = callee.name) (isListed : callee ∈ document.symbols)
    (isAround : calls.getLast?.bind (Snapshot.ofList document.symbols).container = some caller) :
    document.Linked caller calls.reverse callee := by
  induction chain generalizing callee with
  | last isCall =>
      rw [isName] at isCall
      exact .single (unambiguous.calls_iff_named.mpr ⟨isListed, isCall, isAround⟩)
  | step isCall isWithin chain ih =>
      rw [isName] at isCall
      rw [List.getLast?_cons_of_ne_nil chain.ne_nil] at isAround
      have link := unambiguous.calls_iff_named.mpr ⟨isListed, isCall, isWithin⟩
      rw [List.reverse_cons]
      exact (ih rfl link.fromListed isAround).snoc link

theorem callerChain_of_linked (linked : document.Linked caller calls callee) :
    (document.tracer ⟨maxDepth, false, false⟩).CallerChain document callee.name calls.reverse ∧
      calls.reverse.getLast?.bind (Snapshot.ofList document.symbols).container = some caller := by
  induction linked with
  | single link =>
      obtain ⟨-, isCall, isAround⟩ := unambiguous.calls_iff_named.mp link
      exact ⟨.last isCall, isAround⟩
  | step link _ ih =>
      obtain ⟨-, isCall, isAround⟩ := unambiguous.calls_iff_named.mp link
      rw [List.reverse_cons, List.getLast?_concat]
      exact ⟨ih.1.snoc ih.2 isCall, isAround⟩

/-! ## Branches -/

/-- The calls on branches of callees that end at a symbol are those that lead to it. -/
theorem exists_calleeBranch_iff (isListed : caller ∈ document.symbols) :
    (∃ path, Branch (Answers.trees document.answer .downward caller.name ⟨maxDepth, false, false⟩) path ∧
        path.map CallNode.identifier = calls ∧
        path.getLast?.bind CallNode.target = some callee) ↔
      calls.length ≤ maxDepth + 1 ∧ document.Linked caller calls callee := by
  have forest : document.IsCalleeForest ⟨maxDepth, false, false⟩ caller.name
      (Answers.trees document.answer .downward caller.name ⟨maxDepth, false, false⟩) :=
    isCalleeForest_trees rfl
  have labelled : ∀ path, Branch (Answers.trees document.answer .downward caller.name ⟨maxDepth, false, false⟩) path →
      ∀ node ∈ path, node.target = (Snapshot.ofList document.symbols).target node.identifier := by
    intro path branch node member
    obtain ⟨position, isThere⟩ := List.mem_iff_getElem?.mp member
    exact (forest.labels path position node branch isThere).2.2
  constructor
  · rintro ⟨path, branch, rfl, refers⟩
    obtain ⟨fits, roots, chain⟩ := (forest.chains _).mp ⟨path, branch, rfl⟩
    rw [CallNode.bind_getLast? (labelled path branch)] at refers
    exact ⟨fits, unambiguous.linked_of_calleeChain chain rfl isListed refers⟩
  · rintro ⟨fits, linked⟩
    obtain ⟨chain, refers⟩ := unambiguous.calleeChain_of_linked linked
    obtain ⟨path, branch, rfl⟩ := (forest.chains calls).mpr ⟨fits, chain⟩
    rw [← CallNode.bind_getLast? (labelled path branch)] at refers
    exact ⟨path, branch, rfl, refers⟩

/-- The calls on branches of callers that end inside a symbol are those that lead from it, read
backwards. -/
theorem exists_callerBranch_iff (isListed : callee ∈ document.symbols) :
    (∃ path, Branch (Answers.trees document.answer .upward callee.name ⟨maxDepth, false, false⟩) path ∧
        path.map CallNode.identifier = calls ∧
        path.getLast?.bind CallNode.container = some caller) ↔
      calls.length ≤ maxDepth + 1 ∧ document.Linked caller calls.reverse callee := by
  have forest : document.IsCallerForest ⟨maxDepth, false, false⟩ callee.name
      (Answers.trees document.answer .upward callee.name ⟨maxDepth, false, false⟩) :=
    isCallerForest_trees rfl
  have labelled : ∀ path, Branch (Answers.trees document.answer .upward callee.name ⟨maxDepth, false, false⟩) path →
      ∀ node ∈ path,
        node.container = (Snapshot.ofList document.symbols).container node.identifier := by
    intro path branch node member
    obtain ⟨position, isThere⟩ := List.mem_iff_getElem?.mp member
    rw [Snapshot.container_ofList]
    exact (forest.labels path position node branch isThere).2.2.1
  constructor
  · rintro ⟨path, branch, rfl, isAround⟩
    obtain ⟨fits, chain⟩ := (forest.chains _).mp ⟨path, branch, rfl⟩
    rw [CallNode.bind_getLast? (labelled path branch)] at isAround
    exact ⟨fits, unambiguous.linked_of_callerChain chain rfl isListed isAround⟩
  · rintro ⟨fits, linked⟩
    obtain ⟨chain, isAround⟩ := unambiguous.callerChain_of_linked linked
    rw [List.reverse_reverse] at chain isAround
    obtain ⟨path, branch, rfl⟩ := (forest.chains calls).mpr ⟨fits, chain⟩
    rw [← CallNode.bind_getLast? (labelled path branch)] at isAround
    exact ⟨path, branch, rfl, isAround⟩

end IsUnambiguous

end IndexDocument

namespace CallPath

variable {document : IndexDocument} {ε : Type} {answer : (query : Query) → Except ε query.Answer}

/-- Over every store that holds an unambiguous document and never fails, calls stand on a branch of
the callees of one symbol that ends at another one just when, read backwards, they stand on a branch
of the callers of that other symbol that ends inside the first. -/
theorem calleeBranch_iff_callerBranch (held : document.IsHeldBy answer)
    (unambiguous : document.IsUnambiguous) (config : Config) (maxDepth : Nat)
    {caller callee : Symbol} (callerListed : caller ∈ document.symbols)
    (calleeListed : callee ∈ document.symbols) :
    let options : TraceOptions := ⟨maxDepth, false, false⟩
    ∃ callees callers,
      (traceDownward config caller.name options).outcome answer = .ok callees ∧
        (traceUpward config callee.name options).outcome answer = .ok callers ∧
        ∀ calls,
          (∃ path, Branch callees path ∧ path.map CallNode.identifier = calls ∧
              path.getLast?.bind CallNode.target = some callee) ↔
            ∃ path, Branch callers path ∧ path.map CallNode.identifier = calls.reverse ∧
              path.getLast?.bind CallNode.container = some caller := by
  intro options
  refine ⟨_, _, outcome_trace_of_isHeldBy held config .downward caller.name options,
    outcome_trace_of_isHeldBy held config .upward callee.name options, fun calls => ?_⟩
  refine (unambiguous.exists_calleeBranch_iff callerListed).trans ?_
  refine Iff.trans ?_ (unambiguous.exists_callerBranch_iff calleeListed).symm
  rw [List.length_reverse, List.reverse_reverse]

/-- Two methods that call each other by their names in another case, a call that says what it refers
to, calls of nothing known, outside of all symbols and inside a symbol that is missing, and a use
that is no call. -/
def unambiguousDocument : IndexDocument where
  symbols := [
    ⟨4, "Run", .method, "src/Runner.cs", 3, 12⟩,
    ⟨2, "step", .function, "src/Step.cs", 1, 6⟩]
  identifiers := [
    ⟨11, "STEP", .call, "src/Runner.cs", some 5, some 4, none⟩,
    ⟨12, "step", .other "import", "src/Runner.cs", some 1, some 4, some 4⟩,
    ⟨13, "run", .call, "src/Step.cs", some 4, some 2, some 4⟩,
    ⟨14, "print", .call, "src/Step.cs", some 5, some 2, some 70⟩,
    ⟨15, "run", .call, "src/Main.cs", some 2, none, none⟩,
    ⟨16, "run", .call, "src/Old.cs", none, some 99, none⟩]

theorem isUnambiguous_unambiguousDocument : unambiguousDocument.IsUnambiguous := by
  constructor
  case ids => decide
  case names => decide +kernel
  case targets => decide +kernel

/-- The calls that lead from one of the two methods back to itself. -/
theorem calleeBranch_iff_callerBranch_recursive :
    let method : Symbol := ⟨4, "Run", .method, "src/Runner.cs", 3, 12⟩
    let answer (query : Query) : Except Empty query.Answer :=
      .ok (unambiguousDocument.answer query)
    let options : TraceOptions := ⟨40, false, false⟩
    unambiguousDocument.IsHeldBy answer ∧ unambiguousDocument.IsUnambiguous ∧
      method ∈ unambiguousDocument.symbols ∧
      ∃ callees callers,
        (traceDownward default method.name options).outcome answer = .ok callees ∧
          (traceUpward default method.name options).outcome answer = .ok callers ∧
          ∀ calls,
            (∃ path, Branch callees path ∧ path.map CallNode.identifier = calls ∧
                path.getLast?.bind CallNode.target = some method) ↔
              ∃ path, Branch callers path ∧ path.map CallNode.identifier = calls.reverse ∧
                path.getLast?.bind CallNode.container = some method :=
  ⟨fun _ => rfl, isUnambiguous_unambiguousDocument, .head _,
    calleeBranch_iff_callerBranch (fun _ => rfl) isUnambiguous_unambiguousDocument default 40
      (.head _) (.head _)⟩

end CallPath

end CallTrace
