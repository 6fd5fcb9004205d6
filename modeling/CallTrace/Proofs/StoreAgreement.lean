import CallTrace.CallPath.Trace
import CallTrace.Inquiry.Conduct
import CallTrace.Proofs.Holding
import CallTrace.Reference.Search

/-!
# Agreement of the two stores

A database into which a document has been imported and a store in memory to which its symbols and
identifiers have been added hold the same document. They answer every query alike, so every search
for references and every trace comes to the same over both.
-/

namespace CallTrace

namespace MemoryStore

private theorem holding_foldl_addSymbol (symbols : List Symbol) (store : MemoryStore)
    (workspace : String) :
    (symbols.foldl (fun grown symbol => grown.addSymbol workspace symbol) store).holding
        workspace =
      { store.holding workspace with
        symbols := (store.holding workspace).symbols ++ symbols } := by
  induction symbols generalizing store with
  | nil => simp
  | cons symbol rest ih =>
      rw [List.foldl_cons, ih, addSymbol, holding_update]
      simp

private theorem holding_foldl_addIdentifier (identifiers : List Identifier) (store : MemoryStore)
    (workspace : String) :
    (identifiers.foldl (fun grown identifier => grown.addIdentifier workspace identifier)
        store).holding workspace =
      { store.holding workspace with
        identifiers := (store.holding workspace).identifiers ++ identifiers } := by
  induction identifiers generalizing store with
  | nil => simp
  | cons identifier rest ih =>
      rw [List.foldl_cons, ih, addIdentifier, holding_update]
      simp

/-- What is added to a workspace comes after what it held before. -/
theorem holding_addDocument (store : MemoryStore) (workspace : String)
    (document : IndexDocument) :
    (store.addDocument workspace document).holding workspace =
      ⟨(store.holding workspace).symbols ++ document.symbols,
        (store.holding workspace).identifiers ++ document.identifiers⟩ := by
  rw [addDocument, holding_foldl_addIdentifier, holding_foldl_addSymbol]

/-- A store to which a document has been added answers as the document does. -/
theorem answer_addDocument (workspace : String) (document : IndexDocument) (query : Query) :
    (empty.addDocument workspace document).answer workspace query = document.answer query := by
  rw [MemoryStore.answer, holding_addDocument, holding_empty]
  rfl

end MemoryStore

namespace Database

/-- A workspace into which a document with distinct numbers is written after it has been cleared
answers as the document does, whatever the database was like before. -/
theorem answer_writeDocument_clear {document : IndexDocument} (named : document.HasNamedKinds)
    (distinct : document.HasDistinctIds) (database : Database) (workspace : String)
    (query : Query) :
    ((database.clear workspace).writeDocument workspace document).answer workspace query =
      document.answer query := by
  have cleared := database.isOrderly_clear workspace
  rw [answer_eq_answer_holding (cleared.writeDocument workspace document),
    holding_writeDocument cleared, holding_clear, if_pos rfl, if_pos rfl,
    IndexDocument.reread_eq named, IndexDocument.absorb_empty distinct]

end Database

/-- Two stores answer alike when every query gets the same answer and every search and trace comes
to the same. -/
structure AnswersAlike {ε : Type} (left right : (query : Query) → Except ε query.Answer) :
    Prop where
  /-- Queries. -/
  query : ∀ query, left query = right query
  /-- References to a name. -/
  findNamed : ∀ name caseSensitive,
    (Reference.findNamed name caseSensitive).outcome left =
      (Reference.findNamed name caseSensitive).outcome right
  /-- References to the name of a symbol. -/
  findOf : ∀ id, (Reference.findOf id).outcome left = (Reference.findOf id).outcome right
  /-- Callers. -/
  traceUpward : ∀ config name options,
    (CallPath.traceUpward config name options).outcome left =
      (CallPath.traceUpward config name options).outcome right
  /-- Callees. -/
  traceDownward : ∀ config name options,
    (CallPath.traceDownward config name options).outcome left =
      (CallPath.traceDownward config name options).outcome right
  /-- Callers and callees. -/
  traceBoth : ∀ config name options,
    (CallPath.traceBoth config name options).outcome left =
      (CallPath.traceBoth config name options).outcome right

theorem AnswersAlike.of_isHeldBy {ε : Type} {left right : (query : Query) → Except ε query.Answer}
    {document : IndexDocument} (leftHolds : document.IsHeldBy left)
    (rightHolds : document.IsHeldBy right) : AnswersAlike left right := by
  have same : left = right := by
    funext query
    rw [leftHolds query, rightHolds query]
  subst same
  exact ⟨fun _ => rfl, fun _ _ => rfl, fun _ => rfl, fun _ _ _ => rfl, fun _ _ _ => rfl,
    fun _ _ _ => rfl⟩

/-- A document with distinct numbers, named kinds and upright symbols is imported into a database of
whatever content, and the workspace then answers like a store in memory to which the document has
been added. -/
theorem answersAlike_importDocument {ε : Type} {document : IndexDocument}
    (named : document.HasNamedKinds) (distinct : document.HasDistinctIds)
    (upright : ∀ symbol ∈ document.symbols, symbol.startLine ≤ symbol.endLine)
    (database : Database) (workspace : String) :
    ∃ written,
      database.importDocument workspace document true = .ok written ∧
        AnswersAlike (ε := ε) (fun query => .ok (written.answer workspace query)) fun query =>
          .ok ((MemoryStore.empty.addDocument workspace document).answer workspace query) := by
  have accepted : document.symbols.any Symbol.isInverted = false := by
    simpa [Symbol.isInverted] using upright
  refine ⟨_, Database.importDocument_of_upright accepted database workspace true, ?_⟩
  have fromDatabase :=
    Database.answer_writeDocument_clear named distinct database workspace
  have fromMemory := MemoryStore.answer_addDocument workspace document
  exact .of_isHeldBy (fun query => congrArg Except.ok (fromDatabase query)) fun query =>
    congrArg Except.ok (fromMemory query)

/-- Two symbols whose names differ in case only, and two identifiers of that name, with kinds in
several spellings. -/
def mixedCaseDocument : IndexDocument where
  symbols := [
    ⟨7, "Run", .ofText "Method", "a.cs", 1, 9⟩,
    ⟨2, "run", .ofText "fn", "b.cs", 3, 3⟩]
  identifiers := [
    ⟨9, "RUN", .ofText "CALL", "a.cs", some 2, some 7, none⟩,
    ⟨4, "run", .ofText "Import", "b.cs", none, some 40, some 2⟩]

/-- The agreement after an import into a database that holds the same numbers already, in this
workspace and in another one. -/
theorem answersAlike_importDocument_mixedCase :
    mixedCaseDocument.HasNamedKinds ∧ mixedCaseDocument.HasDistinctIds ∧
      (∀ symbol ∈ mixedCaseDocument.symbols, symbol.startLine ≤ symbol.endLine) ∧
      ∃ written,
        ((Database.fresh.writeDocument "/other" mixedCaseDocument).writeDocument "/ws"
            ⟨mixedCaseDocument.symbols.reverse, []⟩).importDocument "/ws" mixedCaseDocument true =
              .ok written ∧
          AnswersAlike (ε := Empty) (fun query => .ok (written.answer "/ws" query)) fun query =>
            .ok ((MemoryStore.empty.addDocument "/ws" mixedCaseDocument).answer "/ws" query) := by
  have named : mixedCaseDocument.HasNamedKinds := by
    simp [IndexDocument.hasNamedKinds_iff, mixedCaseDocument]
  have distinct : mixedCaseDocument.HasDistinctIds := ⟨by decide, by decide⟩
  have upright : ∀ symbol ∈ mixedCaseDocument.symbols, symbol.startLine ≤ symbol.endLine := by
    decide
  exact ⟨named, distinct, upright, answersAlike_importDocument named distinct upright _ "/ws"⟩

end CallTrace
