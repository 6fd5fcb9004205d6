import CallTrace.Proofs.StorageOrder
import CallTrace.Proofs.StoreAgreement

/-!
# Searches for references

A search with regard to case, one without it and one by the number of a symbol ask the store in
different orders and give up at different points. Over a store that holds a document they fit
together: all of them find parts of one list, the references to all identifiers of the document.
-/

namespace CallTrace

namespace Answers

variable (document : IndexDocument) (name : String)

theorem map_identifier_references (caseSensitive : Bool) :
    (references document.answer name caseSensitive).map Reference.identifier =
      document.identifiers.filter fun identifier =>
        Text.namesMatch identifier.name name caseSensitive := by
  rw [references, List.map_map]
  exact List.map_id _

theorem references_exact :
    references document.answer name true =
      (references document.answer name false).filter fun reference =>
        reference.identifier.name = name := by
  rw [references, references, List.filter_map]
  refine congrArg (List.map _) ?_
  change document.identifiers.filter (fun identifier => Text.namesMatch identifier.name name true) =
    (document.identifiers.filter fun identifier =>
      Text.namesMatch identifier.name name false).filter fun identifier => identifier.name = name
  rw [List.filter_filter]
  refine List.filter_congr fun identifier _ => ?_
  by_cases same : identifier.name = name
  · simp [same, Text.namesMatch]
  · simp [same, Text.namesMatch, Text.nameKey]

/-- Names that are the same up to case are looked up alike. -/
theorem references_eq_of_namesMatch {first second : String}
    (same : Text.namesMatch first second false = true) :
    references document.answer first false = references document.answer second false := by
  have sameKey : Text.nameKey false first = Text.nameKey false second := beq_iff_eq.mp same
  simp only [references, IndexDocument.answer, sameKey]

/-- A number leads to the references to the name of the first symbol that has it. -/
theorem referencesOf_eq (id : Int64) :
    referencesOf document.answer id =
      match document.symbols.find? fun symbol => symbol.id = id with
      | none => []
      | some symbol => references document.answer symbol.name false := by
  have found : (Snapshot.ofList document.symbols).get? id =
      document.symbols.find? fun symbol => symbol.id = id := Snapshot.get?_ofList _ id
  cases known : document.symbols.find? fun symbol => symbol.id = id with
  | none => simp only [referencesOf, IndexDocument.answer, found, known]
  | some symbol => simp only [referencesOf, IndexDocument.answer, found, known]

end Answers

namespace Reference

/-- The searches for references over a store fit together, and find what a document lists. -/
structure SearchesAgree {ε : Type} (document : IndexDocument)
    (answer : (query : Query) → Except ε query.Answer) : Prop where
  /-- With regard to case, those of the references to a name are found whose identifiers have it
  exactly, with the same symbols around and behind them. -/
  exact : ∀ name, ∃ found, (findNamed name false).outcome answer = .ok found ∧
    (findNamed name true).outcome answer =
      .ok (found.filter fun reference => reference.identifier.name = name)
  /-- The number of a symbol leads to the references to the name of the first symbol that has it. -/
  numbered : ∀ id symbol,
    (document.symbols.find? fun candidate => candidate.id = id) = some symbol →
      (findOf id).outcome answer = (findNamed symbol.name false).outcome answer
  /-- A number that no symbol has leads to nothing. -/
  unknown : ∀ id, (∀ symbol ∈ document.symbols, symbol.id ≠ id) →
    (findOf id).outcome answer = .ok []
  /-- Every identifier is found by its name in any case, as often as it is listed and in the order
  of the list. -/
  complete : ∀ identifier ∈ document.identifiers, ∀ name,
    Text.namesMatch identifier.name name false = true →
      ∃ found, (findNamed name false).outcome answer = .ok found ∧
        (found.map Reference.identifier).Sublist document.identifiers ∧
        (found.map Reference.identifier).count identifier =
          document.identifiers.count identifier
  /-- Names that are the same up to case are searched for alike. -/
  caseless : ∀ first second, Text.namesMatch first second false = true →
    (findNamed first false).outcome answer = (findNamed second false).outcome answer

variable {ε : Type} {document : IndexDocument} {answer : (query : Query) → Except ε query.Answer}

/-- Over every store that holds a document and never fails, the searches for references fit
together, whether or not numbers are repeated and symbols are missing. -/
theorem searchesAgree (held : document.IsHeldBy answer) : SearchesAgree document answer := by
  rw [held.eq_store]
  constructor
  case exact =>
    intro name
    refine ⟨_, outcome_findNamed document.answer name false, ?_⟩
    rw [outcome_findNamed, Answers.references_exact]
  case numbered =>
    intro id symbol isFirst
    rw [outcome_findOf, outcome_findNamed, Answers.referencesOf_eq, isFirst]
  case unknown =>
    intro id isUnknown
    have isNowhere : (document.symbols.find? fun candidate => candidate.id = id) = none := by
      simpa using isUnknown
    rw [outcome_findOf, Answers.referencesOf_eq, isNowhere]
  case complete =>
    intro identifier _ name same
    refine ⟨_, outcome_findNamed document.answer name false, ?_⟩
    rw [Answers.map_identifier_references]
    exact ⟨List.filter_sublist, List.count_filter same⟩
  case caseless =>
    intro first second same
    rw [outcome_findNamed, outcome_findNamed, Answers.references_eq_of_namesMatch document same]

/-- Two symbols with the same number, names of which the lower case is longer or hangs on what
stands around a letter, an identifier that is listed twice, one inside a missing symbol, and one
that refers to nothing. -/
def irregularDocument : IndexDocument where
  symbols := [
    ⟨7, "İndex", .ofText "method", "a.cs", 1, 9⟩,
    ⟨7, "ΣΑΣ", .ofText "fn", "b.cs", 3, 3⟩]
  identifiers := [
    ⟨1, "i̇ndex", .ofText "call", "a.cs", some 2, some 7, none⟩,
    ⟨2, "σας", .ofText "import", "b.cs", none, some 40, none⟩,
    ⟨1, "i̇ndex", .ofText "call", "a.cs", some 2, some 7, none⟩,
    ⟨3, "Σας", .ofText "member_access", "c.cs", some 1, none, some 7⟩,
    ⟨4, "print", .ofText "call", "c.cs", some 5, none, none⟩]

theorem searchesAgree_irregular :
    let answer (query : Query) : Except Empty query.Answer :=
      .ok ((MemoryStore.empty.addDocument "/ws" irregularDocument).answer "/ws" query)
    irregularDocument.IsHeldBy answer ∧ SearchesAgree irregularDocument answer := by
  intro answer
  have held : irregularDocument.IsHeldBy answer := fun query =>
    congrArg Except.ok (MemoryStore.answer_addDocument "/ws" irregularDocument query)
  exact ⟨held, searchesAgree held⟩

end Reference

end CallTrace
