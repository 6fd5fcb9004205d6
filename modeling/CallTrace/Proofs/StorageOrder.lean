import CallTrace.Proofs.Summary
import CallTrace.Proofs.TraceReferences
import Mathlib.Data.List.Sort

/-!
# The order of storage

What is found does not depend on the order in which symbols are stored, as long as no two of them
have the same number: every choice between symbols is settled by their numbers in the end. When
identifiers are stored in another order, references are found in another order and the trees of a
trace have their siblings in another order, at every level, and nothing else changes.
-/

namespace CallTrace

/-! ## Symbols in another order -/

namespace Snapshot

/-- Symbols with distinct numbers can be sorted by number in one way only. -/
theorem byIncreasingId_eq_of_perm {left right : List Symbol} (perm : left.Perm right)
    (distinct : (left.map Symbol.id).Nodup) : byIncreasingId left = byIncreasingId right := by
  have sorted : ∀ symbols : List Symbol,
      (byIncreasingId symbols).Pairwise fun first second => first.id ≤ second.id := by
    intro symbols
    have pairwise : (byIncreasingId symbols).Pairwise fun first second =>
        decide (first.id ≤ second.id) = true :=
      List.pairwise_mergeSort (fun first second third => by simpa using Int64.le_trans)
        (fun first second => by simpa using Int64.le_total first.id second.id) symbols
    exact pairwise.imp of_decide_eq_true
  have sameSymbols : (byIncreasingId left).Perm (byIncreasingId right) :=
    (List.mergeSort_perm left _).trans (perm.trans (List.mergeSort_perm right _).symm)
  refine sameSymbols.eq_of_pairwise ?_ (sorted left) (sorted right)
  intro first second isLeft isRight le ge
  have firstListed : first ∈ left := List.mem_mergeSort.mp isLeft
  have secondListed : second ∈ left := perm.mem_iff.mpr (List.mem_mergeSort.mp isRight)
  exact List.inj_on_of_nodup_map distinct firstListed secondListed (Int64.le_antisymm le ge)

/-- Two snapshots that are read alike, whatever the positions of their symbols. -/
structure ReadsAs (left right : Snapshot) : Prop where
  /-- Numbers lead to the same symbols. -/
  get? : left.get? = right.get?
  /-- Names lead to the same symbols, in the same order. -/
  named : left.named = right.named

theorem readsAs_of_perm {left right : List Symbol} (perm : left.Perm right)
    (distinct : (left.map Symbol.id).Nodup) : (ofList left).ReadsAs (ofList right) where
  get? := by
    funext id
    have distinctRight : (right.map Symbol.id).Nodup := (perm.map Symbol.id).nodup_iff.mp distinct
    apply Option.ext
    intro symbol
    rw [get?_ofList, get?_ofList, find?_id_eq_some_iff distinct,
      find?_id_eq_some_iff distinctRight, perm.mem_iff]
  named := by
    funext name
    rw [named_ofList, named_ofList, byIncreasingId_eq_of_perm perm distinct]

namespace ReadsAs

variable {left right : Snapshot}

theorem matching (reads : left.ReadsAs right) : left.matching = right.matching := by
  funext name caseSensitive
  rw [Snapshot.matching, Snapshot.matching, reads.named]

theorem container (reads : left.ReadsAs right) : left.container = right.container := by
  funext identifier
  rw [Snapshot.container, Snapshot.container, reads.get?]

theorem target (reads : left.ReadsAs right) : left.target = right.target := by
  funext identifier
  rw [Snapshot.target, Snapshot.target, reads.get?, reads.named]

theorem reference (reads : left.ReadsAs right) : left.reference = right.reference := by
  funext identifier
  rw [Snapshot.reference, Snapshot.reference, reads.container, reads.target]

end ReadsAs

end Snapshot

namespace Tracer

/-- A trace goes the same way over snapshots that are read alike. -/
theorem route_eq_of_readsAs {left right : Snapshot} (reads : left.ReadsAs right)
    (options : TraceOptions) (answers : Answers) (direction : CallDirection) :
    (Tracer.mk left options).route answers direction =
      (Tracer.mk right options).route answers direction := by
  have suppresses : (Tracer.mk left options).suppresses = (Tracer.mk right options).suppresses :=
    rfl
  have implementation :
      (Tracer.mk left options).implementation = (Tracer.mk right options).implementation := by
    funext name
    rw [Tracer.implementation, Tracer.implementation, reads.matching]
  cases direction with
  | upward =>
      simp only [route, upwardRoute, suppresses, reads.container, reads.target]
  | downward =>
      simp only [route, downwardRoute, suppresses, implementation, reads.target]

end Tracer

/-! ## Siblings in another order -/

/-- Two lists of trees are the same up to the order of siblings, at every level. -/
inductive CallNode.Rearranged : List CallNode → List CallNode → Prop
  /-- There is no tree. -/
  | nil : Rearranged [] []
  /-- The first nodes are the same up to what is under them, and so are the others. -/
  | cons {others rest later : List CallNode} (node : CallNode)
      (below : Rearranged node.children others) (beside : Rearranged rest later) :
      Rearranged (node :: rest) ({ node with children := others } :: later)
  /-- The first two trees change places. -/
  | swap (first second : CallNode) (rest : List CallNode) :
      Rearranged (first :: second :: rest) (second :: first :: rest)
  /-- One order after another. -/
  | trans {trees others more : List CallNode} (first : Rearranged trees others)
      (second : Rearranged others more) : Rearranged trees more

namespace CallNode.Rearranged

theorem refl : (trees : List CallNode) → Rearranged trees trees
  | [] => .nil
  | ⟨_, _, _, _, _, children⟩ :: rest => .cons ⟨_, _, _, _, _, children⟩ (refl children) (refl rest)

theorem of_perm {trees others : List CallNode} (perm : trees.Perm others) :
    Rearranged trees others := by
  induction perm with
  | nil => exact .nil
  | cons node _ ih =>
      cases node
      exact .cons _ (refl _) ih
  | swap first second rest => exact .swap second first rest
  | trans _ _ first second => exact .trans first second

theorem summary {trees others : List CallNode} (rearranged : Rearranged trees others) :
    TraceSummary.ofTrees trees = TraceSummary.ofTrees others := by
  induction rearranged with
  | nil => rfl
  | cons node _ _ below beside =>
      rw [TraceSummary.ofTrees_cons, TraceSummary.ofTrees_cons, TraceSummary.ofTree_eq_combine,
        TraceSummary.ofTree_eq_combine, below, beside]
  | swap first second rest =>
      simp only [TraceSummary.ofTrees_cons]
      exact TraceSummary.combine_left_comm _ _ _
  | trans _ _ first second => exact first.trans second

end CallNode.Rearranged

namespace Route

variable {σ : Type}

/-- Two routes that differ in the order in which they find calls. -/
structure Reorders (left right : Route σ) : Prop where
  /-- Both have the same direction. -/
  direction : left.direction = right.direction
  /-- At every place they find the same calls. -/
  calls : ∀ place, (left.calls place).Perm (right.calls place)
  /-- The symbols around calls are the same. -/
  container : left.container = right.container
  /-- Calls refer to the same symbols. -/
  target : left.target = right.target
  /-- Calls lead to the same places. -/
  next : left.next = right.next

private theorem rearranged_map {node other : Identifier → CallNode}
    (same : ∀ call, other call = { node call with children := (other call).children })
    (below : ∀ call, CallNode.Rearranged (node call).children (other call).children)
    (calls : List Identifier) :
    CallNode.Rearranged (calls.map node) (calls.map other) := by
  induction calls with
  | nil => exact .nil
  | cons call rest ih =>
      rw [List.map_cons, List.map_cons, same call]
      exact .cons (node call) (below call) ih

/-- Where calls are found in another order, the trees have their siblings in another order. -/
theorem Reorders.trees {left right : Route σ} (reorders : left.Reorders right) (place : σ)
    (depth levels : Nat) :
    CallNode.Rearranged (left.trees place depth levels) (right.trees place depth levels) := by
  induction levels generalizing place depth with
  | zero => exact .nil
  | succ levels ih =>
      rw [trees_succ, trees_succ]
      refine .trans (.of_perm ((reorders.calls place).map _)) (rearranged_map ?_ ?_ _)
      · intro call
        rw [node, node, reorders.direction, reorders.container, reorders.target]
      · intro call
        rw [children_node, children_node, subtrees, subtrees, reorders.next]
        cases right.next place call with
        | none => exact .nil
        | some next => exact ih next (depth + 1)

end Route

/-! ## What is found over a store -/

/-- The references to the name of the symbol with a number over a store. -/
def Answers.referencesOf (answers : Answers) (id : Int64) : List Reference :=
  match (Snapshot.ofList (answers .allSymbols)).get? id with
  | none => []
  | some symbol => answers.references symbol.name false

/-- The callers and callees of a name over a store, if some symbol has the name. -/
def Answers.callPath {ε : Type} (answers : Answers) (name : String) (options : TraceOptions) :
    Except (InquiryFault ε) CallPath :=
  match (answers.tracer options).implementation name with
  | none => .error (.symbolNotFound name)
  | some target =>
    .ok {
      target
      callers := answers.trees .upward name options
      callees := answers.trees .downward name options }

theorem Reference.outcome_findOf {ε : Type} (answers : Answers) (id : Int64) :
    (findOf id).outcome (ε := ε) answers.store = .ok (answers.referencesOf id) := by
  rw [findOf, Inquiry.outcome_bind_of_ok (Inquiry.outcome_snapshot answers),
    Answers.referencesOf]
  cases (Snapshot.ofList (answers .allSymbols)).get? id with
  | none => rfl
  | some symbol =>
      have found := answers.outcome_query (ε := ε) (.identifiersNamed symbol.name false)
      simp only
      rw [Inquiry.outcome_bind_of_ok (Inquiry.outcome_pause _), Inquiry.outcome_bind_of_ok found]
      rfl

theorem CallPath.outcome_traceBoth {ε : Type} (answers : Answers) (config : Config)
    (name : String) (options : TraceOptions) :
    (traceBoth config name options).outcome (ε := ε) answers.store =
      answers.callPath name (options.clamp config) := by
  let tracer := answers.tracer (options.clamp config)
  have callers : (tracer.upward name).outcome (ε := ε) answers.store =
      .ok (answers.trees .upward name (options.clamp config)) :=
    tracer.outcome_follow answers .upward name
  have callees : (tracer.downward name).outcome (ε := ε) answers.store =
      .ok (answers.trees .downward name (options.clamp config)) :=
    tracer.outcome_follow answers .downward name
  rw [traceBoth, Inquiry.outcome_bind_of_ok (Inquiry.outcome_snapshot answers), Answers.callPath]
  change Inquiry.outcome _
    (match tracer.implementation name with
    | none => Inquiry.notFound name
    | some target => do
      let callers ← tracer.upward name
      let callees ← tracer.downward name
      return CallPath.mk target callers callees) =
    match tracer.implementation name with
    | none => _
    | some target => _
  cases tracer.implementation name with
  | none => rfl
  | some target =>
      simp only
      rw [Inquiry.outcome_bind_of_ok callers, Inquiry.outcome_bind_of_ok callees]
      rfl

/-- Two stores over which every search and every trace comes to the same. -/
structure FindsAlike {ε : Type} (left right : (query : Query) → Except ε query.Answer) :
    Prop where
  /-- References to a name. -/
  findNamed : ∀ name caseSensitive,
    (Reference.findNamed name caseSensitive).outcome left =
      (Reference.findNamed name caseSensitive).outcome right
  /-- References to the name of a symbol. -/
  findOf : ∀ id, (Reference.findOf id).outcome left = (Reference.findOf id).outcome right
  /-- Callers, and callees. -/
  trace : ∀ config direction name options,
    (CallPath.trace config direction name options).outcome left =
      (CallPath.trace config direction name options).outcome right
  /-- Callers and callees. -/
  traceBoth : ∀ config name options,
    (CallPath.traceBoth config name options).outcome left =
      (CallPath.traceBoth config name options).outcome right

/-- Two stores over which every search and every trace comes to the same, up to the order of
references and of siblings. -/
structure FindsRearranged {ε : Type} (left right : (query : Query) → Except ε query.Answer) :
    Prop where
  /-- References to a name. -/
  findNamed : ∀ name caseSensitive, ∃ found others,
    (Reference.findNamed name caseSensitive).outcome left = .ok found ∧
      (Reference.findNamed name caseSensitive).outcome right = .ok others ∧ found.Perm others
  /-- References to the name of a symbol. -/
  findOf : ∀ id, ∃ found others,
    (Reference.findOf id).outcome left = .ok found ∧
      (Reference.findOf id).outcome right = .ok others ∧ found.Perm others
  /-- Callers, and callees. -/
  trace : ∀ config direction name options, ∃ trees others,
    (CallPath.trace config direction name options).outcome left = .ok trees ∧
      (CallPath.trace config direction name options).outcome right = .ok others ∧
      CallNode.Rearranged trees others ∧
      TraceSummary.ofTrees trees = TraceSummary.ofTrees others
  /-- Callers and callees, of a name that some symbol has over both stores or over neither. -/
  traceBoth : ∀ config name options,
    ((CallPath.traceBoth config name options).outcome left = .error (.symbolNotFound name) ∧
      (CallPath.traceBoth config name options).outcome right = .error (.symbolNotFound name)) ∨
    ∃ path other,
      (CallPath.traceBoth config name options).outcome left = .ok path ∧
        (CallPath.traceBoth config name options).outcome right = .ok other ∧
        path.target = other.target ∧
        CallNode.Rearranged path.callers other.callers ∧
        CallNode.Rearranged path.callees other.callees ∧ path.summary = other.summary

/-! ## Two documents -/

namespace IndexDocument

variable {left right : IndexDocument}

theorem trees_eq_of_readsAs
    (reads : (Snapshot.ofList left.symbols).ReadsAs (.ofList right.symbols))
    (identifiers : left.identifiers = right.identifiers) (direction : CallDirection)
    (name : String) (options : TraceOptions) :
    Answers.trees left.answer direction name options =
      Answers.trees right.answer direction name options := by
  obtain ⟨leftSymbols, held⟩ := left
  obtain ⟨rightSymbols, rfl⟩ : ∃ symbols, right = ⟨symbols, held⟩ :=
    ⟨right.symbols, by cases right; exact congrArg _ identifiers.symm⟩
  have sameWay := Tracer.route_eq_of_readsAs reads options
    (IndexDocument.answer ⟨leftSymbols, held⟩) direction
  have sameCalls : (Tracer.mk (.ofList rightSymbols) options).route
      (IndexDocument.answer ⟨leftSymbols, held⟩) direction =
        (Tracer.mk (.ofList rightSymbols) options).route
          (IndexDocument.answer ⟨rightSymbols, held⟩) direction := by
    cases direction <;> rfl
  exact congrArg (fun route : Route _ => route.trees _ _ _) (sameWay.trans sameCalls)

theorem references_eq_of_readsAs
    (reads : (Snapshot.ofList left.symbols).ReadsAs (.ofList right.symbols))
    (identifiers : left.identifiers = right.identifiers) (name : String)
    (caseSensitive : Bool) :
    Answers.references left.answer name caseSensitive =
      Answers.references right.answer name caseSensitive := by
  change List.map (Snapshot.ofList left.symbols).reference (left.identifiers.filter _) =
    List.map (Snapshot.ofList right.symbols).reference (right.identifiers.filter _)
  rw [reads.reference, identifiers]

theorem references_perm (reads : (Snapshot.ofList left.symbols).ReadsAs (.ofList right.symbols))
    (identifiers : left.identifiers.Perm right.identifiers) (name : String)
    (caseSensitive : Bool) :
    (Answers.references left.answer name caseSensitive).Perm
      (Answers.references right.answer name caseSensitive) := by
  change (List.map (Snapshot.ofList left.symbols).reference _).Perm
    (List.map (Snapshot.ofList right.symbols).reference _)
  rw [reads.reference]
  exact (identifiers.filter _).map _

/-- The numbers of both documents lead to the same symbols, so the references to them are compared
as those to a name. -/
theorem referencesOf_of_readsAs
    (reads : (Snapshot.ofList left.symbols).ReadsAs (.ofList right.symbols))
    (related : List Reference → List Reference → Prop) (none : related [] [])
    (named : ∀ name, related (Answers.references left.answer name false)
      (Answers.references right.answer name false)) (id : Int64) :
    related (Answers.referencesOf left.answer id) (Answers.referencesOf right.answer id) := by
  have found : (Snapshot.ofList left.symbols).get? id = (Snapshot.ofList right.symbols).get? id :=
    congrFun reads.get? id
  simp only [Answers.referencesOf, IndexDocument.answer]
  rw [found]
  cases (Snapshot.ofList right.symbols).get? id with
  | none => exact none
  | some symbol => exact named symbol.name

theorem implementation_eq_of_readsAs
    (reads : (Snapshot.ofList left.symbols).ReadsAs (.ofList right.symbols))
    (options : TraceOptions) (name : String) :
    (Answers.tracer left.answer options).implementation name =
      (Answers.tracer right.answer options).implementation name := by
  change Symbol.bestImplementation
      ((Snapshot.ofList left.symbols).matching name options.caseSensitive) =
    Symbol.bestImplementation
      ((Snapshot.ofList right.symbols).matching name options.caseSensitive)
  rw [reads.matching]

theorem reorders_route (tracer : Tracer) (identifiers : left.identifiers.Perm right.identifiers)
    (direction : CallDirection) :
    (tracer.route left.answer direction).Reorders (tracer.route right.answer direction) := by
  cases direction with
  | upward => exact ⟨rfl, fun place => (identifiers.filter _).filter _, rfl, rfl, rfl⟩
  | downward =>
      refine ⟨rfl, fun place => ?_, rfl, rfl, rfl⟩
      simp only [Tracer.route, Tracer.calls_downwardRoute]
      cases tracer.implementation place.name with
      | none => exact .nil
      | some root =>
          simp only
          split
          · exact .nil
          · exact (identifiers.filter _).filter _

theorem trees_rearranged (reads : (Snapshot.ofList left.symbols).ReadsAs (.ofList right.symbols))
    (identifiers : left.identifiers.Perm right.identifiers) (direction : CallDirection)
    (name : String) (options : TraceOptions) :
    CallNode.Rearranged (Answers.trees left.answer direction name options)
      (Answers.trees right.answer direction name options) := by
  have sameWay := Tracer.route_eq_of_readsAs reads options left.answer direction
  have reordered := reorders_route (Tracer.mk (.ofList right.symbols) options) identifiers direction
  rw [← sameWay] at reordered
  exact reordered.trees _ _ _

theorem findsAlike_of_readsAs {ε : Type}
    (reads : (Snapshot.ofList left.symbols).ReadsAs (.ofList right.symbols))
    (identifiers : left.identifiers = right.identifiers) :
    FindsAlike (ε := ε) (Answers.store left.answer) (Answers.store right.answer) where
  findNamed name caseSensitive := by
    rw [Reference.outcome_findNamed, Reference.outcome_findNamed,
      references_eq_of_readsAs reads identifiers]
  findOf id := by
    rw [Reference.outcome_findOf, Reference.outcome_findOf]
    refine congrArg Except.ok (referencesOf_of_readsAs reads Eq rfl (fun name => ?_) id)
    exact references_eq_of_readsAs reads identifiers name false
  trace config direction name options := by
    rw [CallPath.outcome_trace, CallPath.outcome_trace, trees_eq_of_readsAs reads identifiers]
  traceBoth config name options := by
    rw [CallPath.outcome_traceBoth, CallPath.outcome_traceBoth, Answers.callPath,
      Answers.callPath, implementation_eq_of_readsAs reads,
      trees_eq_of_readsAs reads identifiers, trees_eq_of_readsAs reads identifiers]

theorem findsRearranged_of_readsAs {ε : Type}
    (reads : (Snapshot.ofList left.symbols).ReadsAs (.ofList right.symbols))
    (identifiers : left.identifiers.Perm right.identifiers) :
    FindsRearranged (ε := ε) (Answers.store left.answer) (Answers.store right.answer) where
  findNamed name caseSensitive :=
    ⟨_, _, Reference.outcome_findNamed _ name caseSensitive,
      Reference.outcome_findNamed _ name caseSensitive,
      references_perm reads identifiers name caseSensitive⟩
  findOf id := by
    refine ⟨_, _, Reference.outcome_findOf _ id, Reference.outcome_findOf _ id, ?_⟩
    refine referencesOf_of_readsAs reads List.Perm .nil (fun name => ?_) id
    exact references_perm reads identifiers name false
  trace config direction name options := by
    have rearranged := trees_rearranged reads identifiers direction name (options.clamp config)
    exact ⟨_, _, CallPath.outcome_trace _ config direction name options,
      CallPath.outcome_trace _ config direction name options, rearranged, rearranged.summary⟩
  traceBoth config name options := by
    have callers := trees_rearranged reads identifiers .upward name (options.clamp config)
    have callees := trees_rearranged reads identifiers .downward name (options.clamp config)
    rw [CallPath.outcome_traceBoth, CallPath.outcome_traceBoth, Answers.callPath,
      Answers.callPath, implementation_eq_of_readsAs reads]
    cases (Answers.tracer right.answer (options.clamp config)).implementation name with
    | none => exact Or.inl ⟨rfl, rfl⟩
    | some target =>
        refine Or.inr ⟨_, _, rfl, rfl, rfl, callers, callees, ?_⟩
        -- Callees are counted after callers, so their part has to be taken out of the sum first.
        rw [CallPath.summary, CallPath.summary, TraceSummary.addTrees_eq_combine,
          TraceSummary.addTrees_eq_combine (.ofTrees (Answers.trees right.answer _ _ _)),
          callers.summary, callees.summary]

end IndexDocument

/-- Over two stores that hold the same symbols in different orders, no two of them with the same
number, every search and trace comes to the same when the identifiers are the same, and to the same
up to the order of references and siblings when the identifiers are in different orders too. -/
theorem findings_of_perm {ε : Type} {left right : IndexDocument}
    {leftAnswer rightAnswer : (query : Query) → Except ε query.Answer}
    (leftHolds : left.IsHeldBy leftAnswer) (rightHolds : right.IsHeldBy rightAnswer)
    (symbols : left.symbols.Perm right.symbols)
    (distinct : (left.symbols.map Symbol.id).Nodup) :
    (left.identifiers = right.identifiers → FindsAlike leftAnswer rightAnswer) ∧
      (left.identifiers.Perm right.identifiers → FindsRearranged leftAnswer rightAnswer) := by
  have reads := Snapshot.readsAs_of_perm symbols distinct
  rw [leftHolds.eq_store, rightHolds.eq_store]
  exact ⟨IndexDocument.findsAlike_of_readsAs reads, IndexDocument.findsRearranged_of_readsAs reads⟩

/-- Two symbols of one name that are equally long, and several calls of that name in a symbol that
both of them call. -/
def tiedDocument : IndexDocument where
  symbols := [
    ⟨5, "run", .ofText "method", "a.rs", 1, 4⟩,
    ⟨3, "Run", .ofText "function", "b.rs", 7, 10⟩,
    ⟨9, "main", .ofText "function", "c.rs", 20, 30⟩]
  identifiers := [
    ⟨1, "run", .ofText "call", "c.rs", some 21, some 9, none⟩,
    ⟨2, "RUN", .ofText "call", "c.rs", some 22, some 9, none⟩,
    ⟨3, "main", .ofText "call", "a.rs", none, some 5, none⟩,
    ⟨4, "main", .ofText "call", "b.rs", some 8, some 3, some 9⟩]

/-- What is found among equally good symbols when these are stored the other way round, first with
the identifiers as they were and then with them the other way round too. -/
theorem findings_of_perm_tied :
    let answer (document : IndexDocument) (query : Query) : Except Empty query.Answer :=
      .ok (document.answer query)
    let turned : IndexDocument := ⟨tiedDocument.symbols.reverse, tiedDocument.identifiers⟩
    let reversed : IndexDocument := ⟨turned.symbols, tiedDocument.identifiers.reverse⟩
    tiedDocument.IsHeldBy (answer tiedDocument) ∧ turned.IsHeldBy (answer turned) ∧
      reversed.IsHeldBy (answer reversed) ∧ tiedDocument.symbols.Perm turned.symbols ∧
      tiedDocument.identifiers.Perm reversed.identifiers ∧
      (tiedDocument.symbols.map Symbol.id).Nodup ∧
      FindsAlike (answer tiedDocument) (answer turned) ∧
      FindsRearranged (answer tiedDocument) (answer reversed) := by
  intro answer turned reversed
  have symbols : tiedDocument.symbols.Perm turned.symbols := (List.reverse_perm _).symm
  have identifiers : tiedDocument.identifiers.Perm reversed.identifiers :=
    (List.reverse_perm _).symm
  have distinct : (tiedDocument.symbols.map Symbol.id).Nodup := by decide
  have held : tiedDocument.IsHeldBy (answer tiedDocument) := fun _ => rfl
  have turnedHeld : turned.IsHeldBy (answer turned) := fun _ => rfl
  have reversedHeld : reversed.IsHeldBy (answer reversed) := fun _ => rfl
  exact ⟨held, turnedHeld, reversedHeld, symbols, identifiers, distinct,
    (findings_of_perm held turnedHeld symbols distinct).1 rfl,
    (findings_of_perm held reversedHeld symbols distinct).2 identifiers⟩

end CallTrace
