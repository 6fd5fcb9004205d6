import CallTrace.Proofs.CallChain
import CallTrace.Proofs.Snapshot
import CallTrace.Reference.Search

/-!
# Calls in traces and in references

A trace and a search for references attach the symbol around a call and the symbol behind it in ways
of their own: a search and a trace of callers look up the number that the call gives, a trace of
callees takes the symbol inside which it has found the call. Where no two symbols have the same
number, they tell the same of every call.
-/

namespace CallTrace

/-- What a node tells of its call. -/
def CallNode.reference (node : CallNode) : Reference where
  identifier := node.identifier
  container := node.container
  target := node.target

theorem Identifier.isCall_iff {identifier : Identifier} :
    identifier.isCall = true ↔ identifier.kind = .call :=
  beq_iff_eq

/-- The references to a name over a store. -/
def Answers.references (answers : Answers) (name : String) (caseSensitive : Bool) :
    List Reference :=
  List.map (Snapshot.ofList (answers .allSymbols)).reference
    (answers (.identifiersNamed name caseSensitive))

theorem Reference.outcome_findNamed {ε : Type} (answers : Answers) (name : String)
    (caseSensitive : Bool) :
    (findNamed name caseSensitive).outcome (ε := ε) answers.store =
      .ok (answers.references name caseSensitive) := by
  have found := answers.outcome_query (ε := ε) (.identifiersNamed name caseSensitive)
  rw [findNamed, Inquiry.outcome_bind_of_ok (Inquiry.outcome_pause _),
    Inquiry.outcome_bind_of_ok found, Answers.references]
  split
  case isTrue isEmpty =>
    rw [List.isEmpty_iff.mp isEmpty]
    rfl
  case isFalse =>
    rw [Inquiry.outcome_bind_of_ok (Inquiry.outcome_snapshot answers)]
    rfl

/-- The calls among the references to a name are the roots of a trace of its callers. -/
theorem Answers.filter_references (answers : Answers) (name : String) (options : TraceOptions) :
    (answers.references name options.caseSensitive).filter
        (fun reference => reference.identifier.isCall) =
      (answers.trees .upward name options).map CallNode.reference := by
  rw [references, List.filter_map, trees, Route.trees_succ, List.map_map]
  rfl

namespace IndexDocument

variable {document : IndexDocument} {options : TraceOptions}

theorem reference_mem {identifier : Identifier} (isListed : identifier ∈ document.identifiers)
    (caseSensitive : Bool) :
    (Snapshot.ofList document.symbols).reference identifier ∈
      Answers.references document.answer identifier.name caseSensitive :=
  List.mem_map_of_mem (List.mem_filter.mpr ⟨isListed, beq_self_eq_true _⟩)

theorem exists_root_of_mem_calls {place : Tracer.Place} {call : Identifier}
    (isFound : call ∈ ((Answers.tracer document.answer options).downwardRoute
      document.answer).calls place) :
    ∃ root ∈ document.symbols,
      (Answers.tracer document.answer options).implementation place.name = some root ∧
        call ∈ document.callsWithin root.id := by
  rw [Tracer.calls_downwardRoute] at isFound
  cases isBest : (Answers.tracer document.answer options).implementation place.name with
  | none => simp [isBest] at isFound
  | some root =>
      simp only [isBest, filter_isCall_answer_within] at isFound
      have isListed := (Snapshot.mem_matching_ofList.mp (Symbol.mem_of_bestImplementation isBest)).1
      refine ⟨root, isListed, rfl, ?_⟩
      split at isFound
      · cases isFound
      · exact isFound

/-- A node of a trace is that of a call of the document, and it tells what a reference tells. -/
theorem reference_of_branch (distinct : (document.symbols.map Symbol.id).Nodup)
    (direction : CallDirection) {name : String} {path : List CallNode}
    (branch : CallNode.Branch (Answers.trees document.answer direction name options) path)
    {node : CallNode} (member : node ∈ path) :
    node.identifier ∈ document.identifiers ∧ node.identifier.isCall = true ∧
      node.reference = (Snapshot.ofList document.symbols).reference node.identifier := by
  obtain ⟨position, isThere⟩ := List.mem_iff_getElem?.mp member
  cases direction with
  | upward =>
      obtain ⟨place, call, isFound, rfl⟩ := Route.exists_step_of_branch _ branch isThere
      obtain ⟨isNamed, isCall⟩ := List.mem_filter.mp isFound
      exact ⟨List.mem_of_mem_filter isNamed, isCall, rfl⟩
  | downward =>
      obtain ⟨place, call, isFound, rfl⟩ := Route.exists_step_of_branch _ branch isThere
      obtain ⟨root, rootListed, isBest, isInside⟩ := exists_root_of_mem_calls isFound
      obtain ⟨isListed, isCall, isWithin⟩ : call ∈ document.identifiers ∧ call.isCall = true ∧
          call.containerId = some root.id := by
        simpa [callsWithin] using isInside
      have isAround : (Snapshot.ofList document.symbols).container call = some root := by
        rw [Snapshot.container_ofList, isWithin, Option.bind_some,
          Snapshot.find?_id_eq_some_iff distinct]
        exact ⟨rootListed, rfl⟩
      have sameContainer := isBest.trans isAround.symm
      exact ⟨isListed, isCall, congrArg (Reference.mk call · _) sameContainer⟩

end IndexDocument

namespace CallPath

variable {document : IndexDocument} {ε : Type} {answer : (query : Query) → Except ε query.Answer}

/-- Over every store that holds a document in which no two symbols have the same number, and that
never fails, every node of a trace is that of a call and is found among the references to the name
of the call, and the calls among the references to a name are the roots of a trace of its callers,
in the same order. -/
theorem nodes_eq_references (held : document.IsHeldBy answer)
    (distinct : (document.symbols.map Symbol.id).Nodup) (config : Config) (name : String)
    (options : TraceOptions) :
    (∀ direction, ∃ trees, (trace config direction name options).outcome answer = .ok trees ∧
        ∀ path, CallNode.Branch trees path → ∀ node ∈ path, node.identifier.kind = .call ∧
          ∀ caseSensitive, ∃ references,
            (Reference.findNamed node.identifier.name caseSensitive).outcome answer =
                .ok references ∧
              node.reference ∈ references) ∧
      ∃ callers references,
        (traceUpward config name options).outcome answer = .ok callers ∧
          (Reference.findNamed name options.caseSensitive).outcome answer = .ok references ∧
          references.filter (fun reference => reference.identifier.kind = .call) =
            callers.map CallNode.reference := by
  rw [held.eq_store]
  refine ⟨fun direction => ⟨_, outcome_trace document.answer config direction name options, ?_⟩,
    _, _, outcome_trace document.answer config .upward name options,
    Reference.outcome_findNamed document.answer name options.caseSensitive, ?_⟩
  · intro path branch node member
    obtain ⟨isListed, isCall, isReference⟩ :=
      IndexDocument.reference_of_branch distinct direction branch member
    refine ⟨Identifier.isCall_iff.mp isCall, fun caseSensitive => ⟨_,
      Reference.outcome_findNamed document.answer _ caseSensitive, ?_⟩⟩
    rw [isReference]
    exact IndexDocument.reference_mem isListed caseSensitive
  · exact Answers.filter_references document.answer name (options.clamp config)

/-- The agreement on code with symbols of one name in several cases, a call in a symbol that is
missing, and calls that say what they refer to. -/
theorem nodes_eq_references_recursive :
    let answer (query : Query) : Except Empty query.Answer :=
      .ok (recursiveDocument.answer query)
    let options : TraceOptions := ⟨40, false, false⟩
    recursiveDocument.IsHeldBy answer ∧ (recursiveDocument.symbols.map Symbol.id).Nodup ∧
      (∀ direction, ∃ trees, (trace default direction "run" options).outcome answer = .ok trees ∧
        ∀ path, CallNode.Branch trees path → ∀ node ∈ path, node.identifier.kind = .call ∧
          ∀ caseSensitive, ∃ references,
            (Reference.findNamed node.identifier.name caseSensitive).outcome answer =
                .ok references ∧
              node.reference ∈ references) ∧
      ∃ callers references,
        (traceUpward default "run" options).outcome answer = .ok callers ∧
          (Reference.findNamed "run" options.caseSensitive).outcome answer = .ok references ∧
          references.filter (fun reference => reference.identifier.kind = .call) =
            callers.map CallNode.reference := by
  have distinct : (recursiveDocument.symbols.map Symbol.id).Nodup := by decide
  exact ⟨fun _ => rfl, distinct,
    nodes_eq_references (fun _ => rfl) distinct default "run" ⟨40, false, false⟩⟩

end CallPath

end CallTrace
