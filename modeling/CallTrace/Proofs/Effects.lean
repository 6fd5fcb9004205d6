import CallTrace.Proofs.Ledger

/-!
# What requests change

A request that fails leaves everything as it was, and so does one for a method that only reads.
Imports and removals of a workspace's content change rows of the session's own workspace, and nothing
else.
-/

namespace CallTrace

/-! ## Databases that differ in one workspace -/

namespace Database

/-- Two databases have the same heading and, but for one workspace, the same rows. -/
structure AgreesOutside (before after : Database) (workspace : String) : Prop where
  /-- The version stays, and whether changes are logged. -/
  heading : after.heading = before.heading
  /-- The symbols of other workspaces stay. -/
  symbols : ∀ other, other ≠ workspace →
    after.symbols.rowsOf other = before.symbols.rowsOf other
  /-- The identifiers of other workspaces stay. -/
  identifiers : ∀ other, other ≠ workspace →
    after.identifiers.rowsOf other = before.identifiers.rowsOf other

namespace AgreesOutside

variable {before middle after : Database} {workspace : String}

theorem refl (database : Database) (workspace : String) :
    database.AgreesOutside database workspace :=
  ⟨rfl, fun _ _ => rfl, fun _ _ => rfl⟩

theorem trans (first : before.AgreesOutside middle workspace)
    (second : middle.AgreesOutside after workspace) : before.AgreesOutside after workspace where
  heading := second.heading.trans first.heading
  symbols other apart := (second.symbols other apart).trans (first.symbols other apart)
  identifiers other apart :=
    (second.identifiers other apart).trans (first.identifiers other apart)

/-- What one step leaves alone a whole run of such steps leaves alone. -/
theorem foldl {α : Type} {write : Database → α → Database}
    (step : ∀ (database : Database) item,
      database.AgreesOutside (write database item) workspace)
    (items : List α) (database : Database) :
    database.AgreesOutside (items.foldl write database) workspace := by
  induction items generalizing database with
  | nil => exact refl database workspace
  | cons item rest ih => exact (step database item).trans (ih (write database item))

end AgreesOutside

theorem agreesOutside_clear (database : Database) (workspace : String) :
    database.AgreesOutside (database.clear workspace) workspace where
  heading := rfl
  symbols other apart := by rw [clear, Table.rowsOf_clear, if_neg apart]
  identifiers other apart := by rw [clear, Table.rowsOf_clear, if_neg apart]

theorem agreesOutside_writeSymbol (database : Database) (workspace : String) (symbol : Symbol) :
    database.AgreesOutside (database.writeSymbol workspace symbol) workspace where
  heading := rfl
  symbols _ apart := Table.rowsOf_write_of_ne _ symbol.id symbol.columns apart
  identifiers _ _ := rfl

theorem agreesOutside_writeIdentifier (database : Database) (workspace : String)
    (identifier : Identifier) :
    database.AgreesOutside (database.writeIdentifier workspace identifier) workspace where
  heading := rfl
  symbols _ _ := rfl
  identifiers _ apart := Table.rowsOf_write_of_ne _ identifier.id identifier.columns apart

theorem agreesOutside_writeDocument (database : Database) (workspace : String)
    (document : IndexDocument) :
    database.AgreesOutside (database.writeDocument workspace document) workspace := by
  have symbols : database.AgreesOutside
      (document.symbols.foldl (fun written symbol => written.writeSymbol workspace symbol)
        database) workspace :=
    .foldl (fun written symbol => written.agreesOutside_writeSymbol workspace symbol) _ _
  exact symbols.trans
    (.foldl (fun written identifier => written.agreesOutside_writeIdentifier workspace identifier)
      _ _)

/-- An accepted import is seen in its workspace only, whether or not it replaces. -/
theorem agreesOutside_importDocument {database written : Database} {workspace : String}
    {document : IndexDocument} {replace : Bool}
    (accepts : database.importDocument workspace document replace = .ok written) :
    database.AgreesOutside written workspace := by
  rw [importDocument] at accepts
  split at accepts
  · cases accepts
  · cases accepts
    cases replace with
    | true =>
        exact (database.agreesOutside_clear workspace).trans
          (agreesOutside_writeDocument _ workspace document)
    | false => exact database.agreesOutside_writeDocument workspace document

end Database

/-! ## File systems that differ at one seat -/

namespace FileSystem

theorem get?_put_of_ne {location other : Location} (system : FileSystem) (entry : Entry)
    (apart : other ≠ location) : (system.put location entry).get? other = system.get? other := by
  simp [get?, put, Std.HashMap.getElem?_insert, Ne.symm apart]

/-- Two file systems are the same but for what lies at a seat. -/
structure AgreesOutside (before after : FileSystem) (seat : Seat) : Prop where
  /-- The working directory stays. -/
  working : after.working = before.working
  /-- What lies at other locations stays. -/
  entries : ∀ location, seat ≠ .file location → after.get? location = before.get? location
  /-- What is kept in memory under other names stays. -/
  memory : ∀ name, seat ≠ .memory name → after.memory[name]? = before.memory[name]?

theorem AgreesOutside.refl (system : FileSystem) (seat : Seat) :
    system.AgreesOutside system seat :=
  ⟨rfl, fun _ _ => rfl, fun _ _ => rfl⟩

theorem agreesOutside_store (system : FileSystem) (database : Database) (seat : Seat) :
    system.AgreesOutside (system.store database seat) seat := by
  cases seat with
  | file location =>
      refine ⟨rfl, fun other apart => ?_, fun _ _ => rfl⟩
      exact get?_put_of_ne system _ fun same => apart (same ▸ rfl)
  | memory name =>
      refine ⟨rfl, fun _ _ => rfl, fun other apart => ?_⟩
      have different : name ≠ other := fun same => apart (same ▸ rfl)
      simp [store, keep, Std.HashMap.getElem?_insert, different]
  | nowhere => exact .refl system .nowhere

end FileSystem

/-! ## Failures that the program survives -/

namespace Failure

/-- After the outcome the program can go on. -/
def Passes {α : Type} (outcome : Except Failure α) : Prop :=
  ∀ failure, outcome = .error failure → failure.isFatal = false

theorem passes_ok {α : Type} (value : α) : Passes (.ok value) := by
  intro failure failed
  cases failed

theorem passes_error {α : Type} {failure : Failure} (survives : failure.isFatal = false) :
    Passes (.error failure : Except Failure α) := by
  intro other failed
  cases failed
  exact survives

theorem passes_bind {α β : Type} {outcome : Except Failure α} {next : α → Except Failure β}
    (first : Passes outcome) (second : ∀ value, Passes (next value)) :
    Passes (outcome >>= next) := by
  cases outcome with
  | error failure => exact passes_error (first failure rfl)
  | ok value => exact second value

theorem passes_mapError {α ε : Type} {wrap : ε → Failure}
    (survives : ∀ fault, (wrap fault).isFatal = false) (outcome : Except ε α) :
    Passes (outcome.mapError wrap) := by
  cases outcome with
  | error fault => exact passes_error (survives fault)
  | ok value => exact passes_ok value

end Failure

/-- Whether a method may change what its workspace holds. -/
def Method.writes : Method → Bool
  | importDocument => true
  | clear => true
  | _ => false

/-- Whether a name, its first or its second one, is that of a method that may change something. -/
def Method.namesWriting (name : String) : Bool :=
  (ofName? name).any writes

theorem Method.namesWriting_eq_false_iff (name : String) :
    namesWriting name = false ↔
      ofName? name ≠ some .importDocument ∧ ofName? name ≠ some .clear := by
  rw [namesWriting]
  cases ofName? name with
  | none => simp
  | some method => cases method <;> simp [writes]

namespace Session

open Failure

variable (session : Session) (system : FileSystem)

/-! ## One request -/

section Passing

variable {δ α : Type}

theorem passes_params (record : Json.Record δ α) (given : Json) : Passes (params record given) :=
  passes_mapError (fun _ => rfl) _

theorem passes_read (table : String) (view : Database → α) :
    Passes ((session.read system table view).mapError Failure.store) :=
  passes_mapError (fun _ => rfl) _

theorem passes_inquire (inquiry : Inquiry α) : Passes (session.inquire system inquiry) :=
  passes_mapError (fun _ => rfl) _

theorem passes_document (path : Path) : Passes (session.document system path) :=
  passes_bind (passes_mapError (fun _ => rfl) _) fun _ => passes_mapError (fun _ => rfl) _

theorem passes_direction (word : Option String) : Passes (direction word) := by
  cases word with
  | none => exact passes_ok _
  | some word =>
      simp only [direction]
      split
      · exact passes_ok _
      · exact passes_error rfl

theorem passes_format (word : Option String) : Passes (format word) := by
  cases word with
  | none => exact passes_ok _
  | some word =>
      simp only [format]
      split
      · exact passes_ok _
      · exact passes_error rfl

theorem passes_trace (config : Config) (given : Json) :
    Passes (session.trace system config given) :=
  passes_bind (passes_params _ given) fun request =>
    passes_bind (passes_direction request.direction) fun _ =>
      passes_bind (passes_format request.format) fun _ =>
        passes_bind (passes_bind (passes_inquire session system _) fun _ => passes_ok _)
          fun _ => passes_ok _

end Passing

/-- The database that a session finds, a fresh one where there is none. -/
def found : Database :=
  (session.database? system).getD .fresh

/-- The ways in which a request for a method of some name is answered, each with what is left
behind. -/
inductive Answered (name : String) : Except Failure Json × FileSystem → Prop where
  /-- The request failed and nothing has changed. -/
  | failed (failure : Failure) (survives : failure.isFatal = false) :
      Answered name (.error failure, system)
  /-- The request only read. -/
  | read (result : Json) (reads : Method.namesWriting name = false) :
      Answered name (.ok result, system)
  /-- Rows of the workspace were written. -/
  | wrote (result : Json) (written : Database) (writes : Method.namesWriting name = true)
      (agrees : (session.found system).AgreesOutside written session.workspace) :
      Answered name (.ok result, session.store system written)

variable {session system}

theorem Answered.of_outcome {name : String} {outcome : Except Failure Json}
    (reads : Method.namesWriting name = false) (passes : Passes outcome) :
    session.Answered system name (outcome, system) := by
  cases outcome with
  | error failure => exact .failed failure (passes failure rfl)
  | ok result => exact .read result reads

/-- An import fails before anything is written, or writes an accepted document. -/
theorem answered_importFile {name : String} (writes : Method.namesWriting name = true)
    (given : Json) : session.Answered system name (session.importFile system given) := by
  -- Everything that can fail before the document is given to the database.
  have passes : Passes (do
      let request ← params ImportParams.record given
      let document ← session.document system ⟨request.path⟩
      return (document, !request.append.getD false)) :=
    passes_bind (passes_params _ given) fun _ =>
      passes_bind (session.passes_document system _) fun _ => passes_ok _
  rw [importFile]
  split
  · rename_i failure failed
    exact .failed failure (passes failure failed)
  · rename_i document replace _
    rw [importDocument]
    split
    · exact .failed _ rfl
    · rename_i written accepts
      split
      · exact .failed _ rfl
      · exact .wrote _ written writes (Database.agreesOutside_importDocument accepts)

theorem answered_clear {name : String} (writes : Method.namesWriting name = true) :
    session.Answered system name (session.clear system) := by
  rw [clear]
  split
  · exact .failed _ rfl
  · exact .wrote _ _ writes (Database.agreesOutside_clear _ _)

/-- Everything that a request can do, whatever it asks for. -/
theorem answered_request (config : Config) (session : Session) (system : FileSystem)
    (name : String) (given : Json) :
    session.Answered system name (session.request system config name given) := by
  rw [request]
  split
  · exact .failed _ rfl
  · rename_i method named
    have isWriting : Method.namesWriting name = method.writes := by
      rw [Method.namesWriting, named, Option.any_some]
    cases method with
    | help => exact .read _ isWriting
    | listMethods => exact .read _ isWriting
    | stats => exact .of_outcome isWriting (passes_read _ _ _ _)
    | importDocument => exact answered_importFile isWriting _
    | clear => exact answered_clear isWriting
    | listWorkspaces =>
        exact .of_outcome isWriting (passes_bind (passes_read _ _ _ _) fun _ => passes_ok _)
    | getSymbol =>
        exact .of_outcome isWriting (passes_bind (passes_params _ _) fun _ =>
          passes_bind (passes_read _ _ _ _) fun _ => passes_ok _)
    | findReferences =>
        exact .of_outcome isWriting (passes_bind (passes_params _ _) fun _ =>
          passes_bind (passes_inquire _ _ _) fun _ => passes_ok _)
    | findReferencesOf =>
        exact .of_outcome isWriting (passes_bind (passes_params _ _) fun _ =>
          passes_bind (passes_inquire _ _ _) fun _ => passes_ok _)
    | traceCallPath => exact .of_outcome isWriting (passes_trace _ _ _ _)

/-- The program goes on after every request. -/
theorem Answered.passes {name : String} {answer : Except Failure Json × FileSystem}
    (answered : session.Answered system name answer) : Passes answer.1 := by
  cases answered with
  | failed failure survives => exact passes_error survives
  | read result reads => exact passes_ok result
  | wrote result written writes agrees => exact passes_ok result

/-- A request that fails or only reads leaves everything as it was. -/
theorem Answered.eq_of_idle {name : String} {answer : Except Failure Json × FileSystem}
    (answered : session.Answered system name answer)
    (idle : (∃ failure, answer.1 = .error failure) ∨ Method.namesWriting name = false) :
    answer.2 = system := by
  cases answered with
  | failed failure survives => rfl
  | read result reads => rfl
  | wrote result written writes agrees =>
      rcases idle with ⟨failure, failed⟩ | reads
      · cases failed
      · rw [reads] at writes
        cases writes

/-- What a session finds after it has stored a database, unless nobody sees what it stores: at the
root, where a directory lies, and where every connection has a database of its own. -/
theorem found_store (session : Session) (system : FileSystem) (database : Database) :
    session.found (session.store system database) = database ∨
      session.found (session.store system database) = session.found system := by
  cases seat : session.seat with
  | file location =>
      by_cases below : location = []
      · right
        simp only [found, database?, store, seat, FileSystem.content?, FileSystem.store,
          FileSystem.database?, FileSystem.get?, below, List.isEmpty_nil, if_true]
      · left
        rw [found, database?, store, seat, FileSystem.content?, FileSystem.store,
          FileSystem.database?_put system database below, Option.getD_some]
  | memory name =>
      left
      rw [found, database?, store, seat, FileSystem.content?, FileSystem.store, FileSystem.keep,
        Std.HashMap.getElem?_insert_self, Option.getD_some]
  | nowhere =>
      right
      rw [found, found, database?, database?, store, seat, FileSystem.store]

/-- Whatever a request does to the file system, it does at the seat of its session. -/
theorem Answered.agreesOutside {name : String} {answer : Except Failure Json × FileSystem}
    (answered : session.Answered system name answer) :
    system.AgreesOutside answer.2 session.seat := by
  cases answered with
  | failed failure survives => exact .refl system session.seat
  | read result reads => exact .refl system session.seat
  | wrote result written writes agrees => exact system.agreesOutside_store written session.seat

/-- Whatever a request does to the database, it does to the rows of the session's workspace. -/
theorem Answered.found {name : String} {answer : Except Failure Json × FileSystem}
    (answered : session.Answered system name answer) :
    (session.found system).AgreesOutside (session.found answer.2) session.workspace := by
  cases answered with
  | failed failure survives => exact .refl _ session.workspace
  | read result reads => exact .refl _ session.workspace
  | wrote result written writes agrees =>
      rcases session.found_store system written with same | same
      · rw [same]
        exact agrees
      · rw [same]
        exact .refl _ session.workspace

/-- A request that fails changes nothing, nor does one for a method that only reads. Whatever a
request does, it is seen in the session's own database only, and there in the rows of the session's
own workspace. -/
theorem request_confined (config : Config) (session : Session) (system : FileSystem)
    (name : String) (given : Json) :
    let answer := session.request system config name given
    (∀ failure, answer.1 = .error failure → answer.2 = system) ∧
      (Method.ofName? name ≠ some .importDocument ∧ Method.ofName? name ≠ some .clear →
        answer.2 = system) ∧
      system.AgreesOutside answer.2 session.seat ∧
      (session.found system).AgreesOutside (session.found answer.2) session.workspace := by
  have answered := answered_request config session system name given
  refine ⟨fun failure failed => ?_, fun others => ?_, answered.agreesOutside, answered.found⟩
  · exact answered.eq_of_idle (Or.inl ⟨failure, failed⟩)
  · exact answered.eq_of_idle (Or.inr ((Method.namesWriting_eq_false_iff name).mpr others))

end Session

end CallTrace
