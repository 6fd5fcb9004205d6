import CallTrace.Proofs.Holding
import CallTrace.Proofs.Reopening
import CallTrace.Session.Request
import Mathlib.Logic.Function.Basic

/-!
# Databases as ledgers

A ledger holds two plain lists for every workspace, which imports upsert and which clearing empties.
However a database is imported into, cleared and opened again, its workspaces answer as those of a
ledger to which the same has been done.
-/

namespace CallTrace

/-- Something that is done to a database. -/
inductive Change where
  /-- A document is imported into a workspace, whose former content is replaced or kept. -/
  | importDocument (workspace : String) (document : IndexDocument) (replace : Bool)
  /-- The content of a workspace is removed. -/
  | clear (workspace : String)
  /-- The database is opened again by the same path. -/
  | reopen

namespace Change

/-- The change with all kinds as they are read back. -/
def reread : Change → Change
  | importDocument workspace document replace =>
      importDocument workspace document.reread replace
  | change => change

/-- Every kind in the change is one that a word names. -/
def HasNamedKinds : Change → Prop
  | importDocument _ document _ => document.HasNamedKinds
  | _ => True

theorem reread_eq {change : Change} (named : change.HasNamedKinds) : change.reread = change := by
  cases change with
  | importDocument workspace document replace =>
      rw [reread, IndexDocument.reread_eq named]
  | clear workspace => rfl
  | reopen => rfl

end Change

/-- What every workspace holds. -/
abbrev Ledger : Type :=
  String → IndexDocument

namespace Ledger

/-- The ledger in which no workspace holds anything. -/
def empty : Ledger :=
  fun _ => ⟨[], []⟩

/-- The ledger after a change. A document with a symbol that ends before it starts changes
nothing. -/
def apply (ledger : Ledger) : Change → Ledger
  | .importDocument workspace document replace =>
      if document.symbols.any Symbol.isInverted then
        ledger
      else
        let held := if replace then ⟨[], []⟩ else ledger workspace
        Function.update ledger workspace (held.absorb document)
  | .clear workspace => Function.update ledger workspace ⟨[], []⟩
  | .reopen => ledger

/-- The ledger after some changes, one after another. -/
def run (ledger : Ledger) (changes : List Change) : Ledger :=
  changes.foldl apply ledger

theorem apply_importDocument {document : IndexDocument}
    (upright : document.symbols.any Symbol.isInverted = false) (ledger : Ledger)
    (workspace : String) (replace : Bool) :
    ledger.apply (.importDocument workspace document replace) =
      Function.update ledger workspace
        ((if replace then ⟨[], []⟩ else ledger workspace).absorb document) := by
  simp only [apply, upright, Bool.false_eq_true, if_false]

end Ledger

namespace Database

private theorem heading_foldl {α : Type} {write : Database → α → Database}
    (keeps : ∀ database item, (write database item).heading = database.heading) (items : List α)
    (database : Database) : (items.foldl write database).heading = database.heading := by
  induction items generalizing database with
  | nil => rfl
  | cons item rest ih => exact (ih _).trans (keeps database item)

theorem heading_writeDocument (database : Database) (workspace : String)
    (document : IndexDocument) :
    (database.writeDocument workspace document).heading = database.heading := by
  rw [writeDocument, heading_foldl, heading_foldl]
  · exact fun _ _ => rfl
  · exact fun _ _ => rfl

/-- The rows of an orderly database have changed as a ledger does, and nothing else has. -/
structure StepsTo (before after : Database) (change : Change) : Prop where
  /-- The version stays, and whether changes are logged. -/
  heading : after.heading = before.heading
  /-- The tables are orderly afterwards. -/
  orderly : ∀ workspace, after.IsOrderly workspace
  /-- The workspaces hold what those of the ledger hold after the change. -/
  holding : after.holding = Ledger.apply before.holding change

theorem stepsTo_clear {database : Database} (orderly : ∀ other, database.IsOrderly other)
    (workspace : String) : database.StepsTo (database.clear workspace) (.clear workspace) where
  heading := rfl
  orderly other := (orderly other).clear workspace
  holding := by
    funext other
    rw [holding_clear, Ledger.apply, Function.update_apply]

/-- An accepted import does to the rows what it does to a ledger. -/
theorem stepsTo_importDocument {database : Database} {document : IndexDocument}
    (orderly : ∀ other, database.IsOrderly other)
    (upright : document.symbols.any Symbol.isInverted = false) (workspace : String)
    (replace : Bool) :
    database.StepsTo
      ((if replace then database.clear workspace else database).writeDocument workspace document)
      (.importDocument workspace document.reread replace) := by
  have rereadUpright : document.reread.symbols.any Symbol.isInverted = false := by
    rw [IndexDocument.any_isInverted_reread, upright]
  cases replace with
  | true =>
      have cleared := fun other => (orderly other).clear workspace
      refine ⟨heading_writeDocument _ _ _,
        fun other => (cleared other).writeDocument workspace document, ?_⟩
      funext other
      rw [Ledger.apply_importDocument rereadUpright, Function.update_apply, if_pos rfl,
        if_pos rfl, holding_writeDocument (cleared other), holding_clear]
      split <;> rfl
  | false =>
      refine ⟨heading_writeDocument _ _ _,
        fun other => (orderly other).writeDocument workspace document, ?_⟩
      funext other
      rw [Ledger.apply_importDocument rereadUpright, Function.update_apply,
        if_neg Bool.false_ne_true, if_neg Bool.false_ne_true,
        holding_writeDocument (orderly other)]
      split
      · rename_i same
        rw [same]
      · rfl

end Database

namespace Session

/-- The session for another workspace of the same database. -/
def inWorkspace (session : Session) (workspace : String) : Session :=
  { session with workspace }

@[simp]
theorem workspace_inWorkspace (session : Session) (workspace : String) :
    (session.inWorkspace workspace).workspace = workspace :=
  rfl

@[simp]
theorem store_inWorkspace (session : Session) (workspace : String) (system : FileSystem)
    (database : Database) :
    (session.inWorkspace workspace).store system database = session.store system database :=
  rfl

/-- The session and the file system after a change. When the database cannot be opened again the
session stays open. -/
def change (config : Config) (session : Session) (system : FileSystem) :
    Change → Session × FileSystem
  | .importDocument workspace document replace =>
      (session, ((session.inWorkspace workspace).importDocument system document replace).2)
  | .clear workspace => (session, ((session.inWorkspace workspace).clear system).2)
  | .reopen =>
      match start config system session.root session.databasePath with
      | (.ok reopened, reached) => (reopened, reached)
      | (.error _, reached) => (session, reached)

/-- The session and the file system after some changes, one after another. -/
def run (config : Config) (session : Session) (system : FileSystem) (changes : List Change) :
    Session × FileSystem :=
  changes.foldl (fun state => change config state.1 state.2) (session, system)

/-- A session follows a ledger when every workspace answers as that of the ledger, documents are
accepted as they are by a ledger, and the database can be opened again. -/
structure Follows (config : Config) (session : Session) (system : FileSystem) (ledger : Ledger) :
    Prop where
  /-- Workspaces answer as those of the ledger. -/
  answers : ∀ workspace,
    (ledger workspace).IsHeldBy ((session.inWorkspace workspace).answer system)
  /-- A document is accepted unless one of its symbols ends before it starts. -/
  accepts : ∀ workspace document replace,
    (∃ answer, ((session.inWorkspace workspace).importDocument system document replace).1 =
        .ok answer) ↔
      document.symbols.any Symbol.isInverted = false
  /-- The database can be opened again. -/
  reopens : ∃ reopened reached,
    start config system session.root session.databasePath = (.ok reopened, reached)

/-! ## The database behind a session -/

/-- What the database of a session is like that follows a ledger. -/
structure Represents (config : Config) (session : Session) (system : FileSystem)
    (ledger : Ledger) (database : Database) : Prop where
  /-- The database is found where the path leads. -/
  settled : system.IsSettled session.databasePath ⟨session.seat, session.isReadOnly⟩ database
  /-- It may be written. -/
  writable : session.isReadOnly = false
  /-- Connections can be kept as the settings say. -/
  sound : config.poolIsSound = true
  /-- Its tables are orderly. -/
  orderly : ∀ workspace, database.IsOrderly workspace
  /-- Its workspaces hold what those of the ledger hold. -/
  holding : database.holding = ledger

variable {config : Config} {session : Session} {system : FileSystem} {ledger : Ledger}
  {database : Database}

theorem start_eq_ok {reached : FileSystem} {root path : Path}
    (starts : start config system root path = (.ok session, reached)) :
    system.openDatabase path = (.ok ⟨session.seat, session.isReadOnly⟩, reached) ∧
      config.poolIsSound = true ∧ session.databasePath = path := by
  rw [start] at starts
  split at starts
  · cases starts
  · rename_i opened final opens
    split at starts
    · rename_i sound
      simp only [Prod.mk.injEq, Except.ok.injEq] at starts
      obtain ⟨rfl, rfl⟩ := starts
      exact ⟨opens, sound, rfl⟩
    · cases starts

theorem start_of_openDatabase {reached : FileSystem} {path : Path} {opened : FileSystem.Opened}
    (root : Path) (sound : config.poolIsSound = true)
    (opens : system.openDatabase path = (.ok opened, reached)) :
    start config system root path =
      (.ok
        { workspace := reached.workspaceKey root, root, databasePath := path, seat := opened.seat
          isReadOnly := opened.isReadOnly }, reached) := by
  rw [start, opens]
  simp only [sound, if_true]

theorem Represents.store {written : Database} {change : Change}
    (represents : session.Represents config system ledger database)
    (steps : database.StepsTo written change) :
    session.Represents config (session.store system written) (ledger.apply change) written where
  settled := represents.settled.store steps.heading
  writable := represents.writable
  sound := represents.sound
  orderly := steps.orderly
  holding := by rw [steps.holding, represents.holding]

theorem Represents.isHeldBy (represents : session.Represents config system ledger database)
    (workspace : String) :
    (ledger workspace).IsHeldBy ((session.inWorkspace workspace).answer system) := by
  intro query
  have found : (session.inWorkspace workspace).database? system = some database :=
    represents.settled.content
  rw [answer, read, found]
  refine congrArg Except.ok ?_
  rw [Database.answer_eq_answer_holding (represents.orderly _), ← represents.holding]
  rfl

/-- A document is imported as it is by the ledger, and refused when the ledger refuses it. -/
theorem Represents.importDocument
    (represents : session.Represents config system ledger database) (workspace : String)
    (document : IndexDocument) (replace : Bool) :
    let outcome := (session.inWorkspace workspace).importDocument system document replace
    ((∃ answer, outcome.1 = .ok answer) ↔ document.symbols.any Symbol.isInverted = false) ∧
      ∃ written, session.Represents config outcome.2
        (ledger.apply (.importDocument workspace document.reread replace)) written := by
  have found : (session.inWorkspace workspace).database? system = some database :=
    represents.settled.content
  have writable : (session.inWorkspace workspace).isReadOnly = false := represents.writable
  cases inverted : document.symbols.any Symbol.isInverted with
  | true =>
      obtain ⟨symbol, refused⟩ :=
        database.importDocument_of_inverted inverted workspace replace
      have rereadInverted : document.reread.symbols.any Symbol.isInverted = true := by
        rw [IndexDocument.any_isInverted_reread, inverted]
      have outcome : (session.inWorkspace workspace).importDocument system document replace =
          (.error (.inverted symbol), system) := by
        simp only [Session.importDocument, found, Option.getD_some, workspace_inWorkspace, refused]
      rw [outcome, Ledger.apply, if_pos rereadInverted]
      exact ⟨by simp, database, represents⟩
  | false =>
      have imports := Database.importDocument_of_upright inverted database workspace replace
      have steps := Database.stepsTo_importDocument represents.orderly inverted workspace replace
      have outcome : (session.inWorkspace workspace).importDocument system document replace =
          (.ok document.summary.toJson, session.store system
            ((if replace then database.clear workspace else database).writeDocument workspace
              document)) := by
        simp only [Session.importDocument, found, Option.getD_some, workspace_inWorkspace, imports,
          store_inWorkspace, writable, Bool.false_and, Bool.false_eq_true, if_false]
      rw [outcome]
      exact ⟨by simp, _, represents.store steps⟩

theorem Represents.clear (represents : session.Represents config system ledger database)
    (workspace : String) :
    ∃ written, session.Represents config ((session.inWorkspace workspace).clear system).2
      (ledger.apply (.clear workspace)) written := by
  have found : (session.inWorkspace workspace).database? system = some database :=
    represents.settled.content
  have writable : (session.inWorkspace workspace).isReadOnly = false := represents.writable
  have reached : ((session.inWorkspace workspace).clear system).2 =
      session.store system (database.clear workspace) := by
    rw [Session.clear, found, writable]
    rfl
  rw [reached]
  exact ⟨_, represents.store (Database.stepsTo_clear represents.orderly workspace)⟩

/-- The database can be opened again, and nothing is changed by that. -/
theorem Represents.reopen (represents : session.Represents config system ledger database) :
    ∃ reopened reached again,
      start config system session.root session.databasePath = (.ok reopened, reached) ∧
        reopened.Represents config reached ledger again := by
  obtain ⟨reached, again, opens, settled, symbols, identifiers⟩ :=
    represents.settled.openDatabase represents.writable
  have starts := start_of_openDatabase session.root represents.sound opens
  refine ⟨_, reached, again, starts, settled, represents.writable, represents.sound, ?_, ?_⟩
  · intro workspace
    obtain ⟨symbolsOrderly, identifiersOrderly, folded⟩ := represents.orderly workspace
    exact ⟨symbols ▸ symbolsOrderly, identifiers ▸ identifiersOrderly, identifiers ▸ folded⟩
  · rw [← represents.holding]
    funext workspace
    rw [Database.holding, symbols, identifiers, Database.holding]

/-- The step of the simulation: a session goes on representing the ledger when both undergo the same
change. -/
theorem Represents.change (represents : session.Represents config system ledger database)
    (change : Change) :
    ∃ written, (session.change config system change).1.Represents config
      (session.change config system change).2 (ledger.apply change.reread) written := by
  cases change with
  | importDocument workspace document replace =>
      exact (represents.importDocument workspace document replace).2
  | clear workspace => exact represents.clear workspace
  | reopen =>
      obtain ⟨reopened, reached, again, starts, representsAgain⟩ := represents.reopen
      rw [Session.change, starts]
      exact ⟨again, representsAgain⟩

/-- Along a whole run of changes the session represents the ledger. -/
theorem Represents.run (represents : session.Represents config system ledger database)
    (changes : List Change) :
    ∃ written, (session.run config system changes).1.Represents config
      (session.run config system changes).2 (ledger.run (changes.map Change.reread)) written := by
  induction changes generalizing session system ledger database with
  | nil => exact ⟨database, represents⟩
  | cons change rest ih =>
      obtain ⟨written, next⟩ := represents.change change
      exact ih next

theorem Represents.follows (represents : session.Represents config system ledger database) :
    session.Follows config system ledger where
  answers := represents.isHeldBy
  accepts workspace document replace :=
    (represents.importDocument workspace document replace).1
  reopens := by
    obtain ⟨reopened, reached, -, starts, -⟩ := represents.reopen
    exact ⟨reopened, reached, starts⟩

/-- A session on a database without rows represents the empty ledger. -/
theorem represents_empty {before : FileSystem} {root path : Path}
    (starts : start config before root path = (.ok session, system))
    (writable : session.isReadOnly = false)
    (content : session.database? system = some database)
    (noSymbols : database.symbols.rows = []) (noIdentifiers : database.identifiers.rows = []) :
    session.Represents config system Ledger.empty database := by
  obtain ⟨opens, sound, isPath⟩ := start_eq_ok starts
  have settled := FileSystem.isSettled_of_openDatabase opens content
  exact {
    settled := isPath ▸ settled
    writable := writable
    sound := sound
    orderly := Database.isOrderly_of_isEmpty noSymbols noIdentifiers
    holding := funext (Database.holding_of_isEmpty noSymbols noIdentifiers) }

/-- Whatever is done to a database that was opened without rows, its workspaces answer as those of a
ledger to which the same has been done, with every kind as it is read back. Kinds that words name
are read back as they are. -/
theorem follows_run {before opened : FileSystem} {root path : Path}
    (starts : start config before root path = (.ok session, opened))
    (writable : session.isReadOnly = false)
    (content : session.database? opened = some database)
    (noSymbols : database.symbols.rows = []) (noIdentifiers : database.identifiers.rows = [])
    (changes : List Change) :
    let final := session.run config opened changes
    final.1.Follows config final.2 (Ledger.empty.run (changes.map Change.reread)) ∧
      ((∀ change ∈ changes, change.HasNamedKinds) →
        final.1.Follows config final.2 (Ledger.empty.run changes)) := by
  have initial := represents_empty starts writable content noSymbols noIdentifiers
  obtain ⟨written, final⟩ := initial.run changes
  refine ⟨final.follows, fun named => ?_⟩
  have unchanged : changes.map Change.reread = changes := by
    conv_rhs => rw [← List.map_id changes]
    exact List.map_congr_left fun change member => Change.reread_eq (named change member)
  rw [unchanged] at final
  exact final.follows

/-- Imports that repeat a number, give it again in another order, are refused and are for two
workspaces, with an opening between them. -/
def interleavedChanges : List Change :=
  let symbol (id start stop : Int64) (name : String) : Symbol :=
    ⟨id, name, .ofText "method", "a.cs", start, stop⟩
  let call (id : Int64) (name : String) : Identifier :=
    ⟨id, name, .ofText "call", "a.cs", none, some 1, none⟩
  [ .importDocument "/" ⟨[symbol 1 1 5 "run", symbol 2 6 9 "stop", symbol 1 2 4 "Run"],
      [call 1 "stop"]⟩ false,
    .importDocument "/other" ⟨[symbol 1 1 1 "main"], []⟩ true,
    .importDocument "/" ⟨[symbol 3 7 6 "late"], []⟩ true,
    .reopen,
    .importDocument "/" ⟨[symbol 3 1 1 "go", symbol 2 6 8 "halt"], [call 1 "go"]⟩ false,
    .clear "/other" ]

theorem follows_run_interleaved :
    ∃ session opened database,
      start default (.empty ⟨"/"⟩) ⟨"/"⟩ ⟨"/index.db"⟩ = (.ok session, opened) ∧
        session.isReadOnly = false ∧ session.database? opened = some database ∧
        database.symbols.rows = [] ∧ database.identifiers.rows = [] ∧
        let final := session.run default opened interleavedChanges
        final.1.Follows default final.2 (Ledger.empty.run interleavedChanges) := by
  have named : ∀ change ∈ interleavedChanges, change.HasNamedKinds := by
    simp [interleavedChanges, Change.HasNamedKinds, IndexDocument.hasNamedKinds_iff]
  let before := FileSystem.empty ⟨"/"⟩
  let database : Database := { Database.fresh with schemaVersion := some "1", logged := true }
  have absent : before.get? ["index.db"] = none := by
    simp [before, FileSystem.get?, FileSystem.empty]
  have opensFile : before.openAt (.plain "/index.db") ⟨"/index.db"⟩ ["index.db"] =
      (.ok (), (before.put ["index.db"] (.file .empty)).put ["index.db"] (.database database)) := by
    rw [FileSystem.openAt, absent]
    rfl
  have opens : before.openDatabase ⟨"/index.db"⟩ =
      (.ok ⟨.file ["index.db"], false⟩,
        (before.put ["index.db"] (.file .empty)).put ["index.db"] (.database database)) := by
    have parent : before.ensureParent ⟨"/index.db"⟩ = (.ok (), before) := rfl
    have address : Address.ofPath ⟨"/index.db"⟩ = .ok (.plain "/index.db") := rfl
    have keeping : (Address.plain "/index.db").keeping = .file ⟨"/index.db"⟩ := rfl
    have location : before.databaseLocation? ⟨"/index.db"⟩ = some ["index.db"] := by decide
    rw [FileSystem.openDatabase, parent]
    simp only [address, FileSystem.openAddress, keeping, FileSystem.openFile, location, opensFile]
    rfl
  have sound : (default : Config).poolIsSound = true := rfl
  have starts := start_of_openDatabase ⟨"/"⟩ sound opens
  exact ⟨_, _, database, starts, rfl, FileSystem.database?_put _ database (by simp), rfl, rfl,
    (follows_run starts rfl (FileSystem.database?_put _ database (by simp)) rfl rfl
      interleavedChanges).2 named⟩
end Session

end CallTrace
