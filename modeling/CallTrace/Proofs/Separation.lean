import CallTrace.Proofs.Growth
import CallTrace.Proofs.Listing
import CallTrace.Proofs.SchemaVersion

/-!
# Workspaces of one database

Sessions whose workspaces are known by different texts share a database without noticing each other.
Whatever the others ask for, a session gets the answers that it would get if it were alone, and its
workspace holds what it would hold. Only the list of workspaces tells that there are others.
Directories that are reached without backslashes are known by different texts unless they are the
same.
-/

namespace CallTrace

/-! ## What is seen from a workspace -/

namespace FileSystem

/-- The file systems differ in one database only, and there not in a workspace. -/
structure SeenAlike (left right : FileSystem) (seat : Seat) (workspace : String) : Prop where
  /-- Both have the same working directory. -/
  working : left.working = right.working
  /-- The same lies at every other location. -/
  entries : ∀ location, seat ≠ .file location → left.get? location = right.get? location
  /-- The same is kept in memory under every other name. -/
  memory : ∀ name, seat ≠ .memory name → left.memory[name]? = right.memory[name]?
  /-- The database is there, and it looks alike from the workspace. -/
  content : ∃ one other, left.content? seat = some one ∧ right.content? seat = some other ∧
    one.LooksLike other workspace

namespace SeenAlike

variable {left middle right : FileSystem} {seat : Seat} {workspace : String}

theorem refl {database : Database} (found : left.content? seat = some database)
    (workspace : String) : left.SeenAlike left seat workspace :=
  ⟨rfl, fun _ _ => rfl, fun _ _ => rfl, database, database, found, found, .refl database workspace⟩

theorem trans (first : left.SeenAlike middle seat workspace)
    (second : middle.SeenAlike right seat workspace) : left.SeenAlike right seat workspace := by
  obtain ⟨one, between, isOne, isBetween, alike⟩ := first.content
  obtain ⟨again, other, isAgain, isOther, alikeToo⟩ := second.content
  obtain rfl : between = again := Option.some.inj (isBetween.symm.trans isAgain)
  exact ⟨first.working.trans second.working,
    fun location apart => (first.entries location apart).trans (second.entries location apart),
    fun name apart => (first.memory name apart).trans (second.memory name apart),
    one, other, isOne, isOther, alike.trans alikeToo⟩

private theorem get?_eq_database (alike : left.SeenAlike right seat workspace)
    {location : Location} (isSeat : seat = .file location) :
    ∃ one other, left.get? location = some (.database one) ∧
      right.get? location = some (.database other) := by
  subst isSeat
  obtain ⟨one, other, isOne, isOther, -⟩ := alike.content
  exact ⟨one, other, (get?_of_database? isOne).2, (get?_of_database? isOther).2⟩

theorem sameShape (alike : left.SeenAlike right seat workspace) : left.SameShape right := by
  refine ⟨alike.working, fun location => ?_, fun location => ?_⟩
  all_goals
    by_cases isSeat : seat = .file location
    · obtain ⟨one, other, isOne, isOther⟩ := alike.get?_eq_database isSeat
      simp [isOne, isOther]
    · rw [alike.entries location isSeat]

theorem readText (alike : left.SeenAlike right seat workspace) (path : Path) :
    left.readText path = right.readText path := by
  simp only [FileSystem.readText, find, locate, alike.sameShape.walk]
  split
  · rfl
  · cases right.walk path with
    | error fault => rfl
    | ok location =>
        simp only [bind, Except.bind]
        by_cases isSeat : seat = .file location
        · obtain ⟨one, other, isOne, isOther⟩ := alike.get?_eq_database isSeat
          rw [isOne, isOther]
        · rw [alike.entries location isSeat]

theorem store (alike : left.SeenAlike right seat workspace) {one other : Database}
    (looks : one.LooksLike other workspace) :
    (left.store one seat).SeenAlike (right.store other seat) seat workspace := by
  obtain ⟨before, after, isBefore, isAfter, -⟩ := alike.content
  have leftOutside := left.agreesOutside_store one seat
  have rightOutside := right.agreesOutside_store other seat
  refine ⟨?_, fun location apart => ?_, fun name apart => ?_, one, other,
    (store_of_content? isBefore one).2, (store_of_content? isAfter other).2, looks⟩
  · rw [leftOutside.working, rightOutside.working, alike.working]
  · rw [leftOutside.entries location apart, rightOutside.entries location apart,
      alike.entries location apart]
  · rw [leftOutside.memory name apart, rightOutside.memory name apart, alike.memory name apart]

end SeenAlike

end FileSystem

/-! ## Requests -/

namespace Session

/-- Two answers are the same and leave file systems that a session cannot tell apart. -/
def AnswersSeenAlike (session : Session) (left right : Except Failure Json × FileSystem) : Prop :=
  left.1 = right.1 ∧ left.2.SeenAlike right.2 session.seat session.workspace

variable {session : Session} {left right : FileSystem}

section SeenAlike

variable (alike : left.SeenAlike right session.seat session.workspace)

include alike

theorem read_seenAlike {α : Type} (table : String) {view : Database → α}
    (agree : ∀ one other : Database, one.LooksLike other session.workspace →
      view one = view other) :
    session.read left table view = session.read right table view := by
  obtain ⟨one, other, isOne, isOther, looks⟩ := alike.content
  simp only [read, database?, isOne, isOther, agree one other looks]

theorem stats_seenAlike : session.stats left = session.stats right := by
  rw [stats, stats, read_seenAlike alike "symbols" fun one other looks => by rw [looks.stats]]

theorem inquire_seenAlike {α : Type} (inquiry : Inquiry α) :
    session.inquire left inquiry = session.inquire right inquiry := by
  have answers : session.answer left = session.answer right :=
    funext fun query => read_seenAlike alike query.table fun _ _ looks => looks.answer query
  rw [inquire, inquire, answers]

theorem report_seenAlike : session.report left = session.report right := by
  funext config request direction
  rw [report, report, inquire_seenAlike alike]

theorem importDocument_seenAlike (document : IndexDocument) (replace : Bool) :
    session.AnswersSeenAlike (session.importDocument left document replace)
      (session.importDocument right document replace) := by
  obtain ⟨one, other, isOne, isOther, looks⟩ := alike.content
  simp only [importDocument, database?, isOne, isOther, Option.getD_some]
  cases inverted : document.inverted? with
  | some symbol =>
      simp only [Database.importDocument, inverted]
      exact ⟨rfl, alike⟩
  | none =>
      simp only [Database.importDocument, inverted]
      split
      · exact ⟨rfl, alike⟩
      · exact ⟨rfl, alike.store (looks.imported document replace)⟩

theorem importFile_seenAlike (given : Json) :
    session.AnswersSeenAlike (session.importFile left given) (session.importFile right given) := by
  have documents (path : Path) : session.document left path = session.document right path := by
    rw [document, document, alike.readText]
  simp only [importFile, documents]
  split
  · exact ⟨rfl, alike⟩
  · exact importDocument_seenAlike alike _ _

theorem clear_seenAlike :
    session.AnswersSeenAlike (session.clear left) (session.clear right) := by
  obtain ⟨one, other, isOne, isOther, -⟩ := alike.content
  simp only [clear, database?, isOne, isOther, Option.getD_some]
  split
  · exact ⟨rfl, alike⟩
  · exact ⟨rfl, alike.store (.clear one other session.workspace)⟩

/-- What a session cannot tell apart it answers alike, unless it is asked for the workspaces of its
database. -/
theorem request_seenAlike (config : Config) (name : String) (given : Json) :
    (Method.ofName? name ≠ some .listWorkspaces →
        (session.request left config name given).1 = (session.request right config name given).1) ∧
      (session.request left config name given).2.SeenAlike
        (session.request right config name given).2 session.seat session.workspace := by
  rw [request, request]
  cases Method.ofName? name with
  | none => exact ⟨fun _ => rfl, alike⟩
  | some method =>
      cases method with
      | help => exact ⟨fun _ => rfl, alike⟩
      | listMethods => exact ⟨fun _ => rfl, alike⟩
      | stats => exact ⟨fun _ => stats_seenAlike alike, alike⟩
      | importDocument =>
          obtain ⟨same, later⟩ := importFile_seenAlike alike (givenParams given)
          exact ⟨fun _ => same, later⟩
      | clear =>
          obtain ⟨same, later⟩ := clear_seenAlike alike
          exact ⟨fun _ => same, later⟩
      | listWorkspaces => exact ⟨fun others => absurd rfl others, alike⟩
      | getSymbol =>
          refine ⟨fun _ => ?_, alike⟩
          simp only [perform, getSymbol, read_seenAlike alike "symbols" fun _ _ looks =>
            looks.symbol? _]
      | findReferences =>
          refine ⟨fun _ => ?_, alike⟩
          simp only [perform, findReferences, inquire_seenAlike alike]
      | findReferencesOf =>
          refine ⟨fun _ => ?_, alike⟩
          simp only [perform, findReferencesOf, inquire_seenAlike alike]
      | traceCallPath =>
          refine ⟨fun _ => ?_, alike⟩
          simp only [perform, trace, report_seenAlike alike]

end SeenAlike

/-- What a session does to a database is not seen from another workspace. -/
theorem seenAlike_request_of_ne (config : Config) {system : FileSystem} {database : Database}
    {workspace : String} (found : session.database? system = some database)
    (apart : workspace ≠ session.workspace) (name : String) (given : Json) :
    (session.request system config name given).2.SeenAlike system session.seat workspace := by
  have answered := answered_request config session system name given
  generalize session.request system config name given = answer at answered
  cases answered with
  | failed failure survives => exact .refl found workspace
  | read result reads => exact .refl found workspace
  | wrote result written writes agrees =>
      have outside := system.agreesOutside_store written session.seat
      have isFound : session.found system = database := by
        rw [Session.found, found, Option.getD_some]
      rw [isFound] at agrees
      exact ⟨outside.working, fun location => outside.entries location,
        fun other => outside.memory other, written, database,
        (FileSystem.store_of_content? found written).2, found,
        .of_rowsOf (agrees.symbols workspace apart),
        .of_rowsOf (agrees.identifiers workspace apart)⟩

/-! ## Taking turns -/

section Turns

variable {ι : Type} {sessions : ι → Session}

/-- A request that one of several sessions makes. -/
structure Turn (ι : Type) where
  /-- The session that makes it. -/
  session : ι
  /-- Name of the method. -/
  method : String
  /-- Parameters of the method. -/
  params : Json

/-- Several sessions make requests in turn, each of which is given with its outcome. -/
def takeTurns (config : Config) (sessions : ι → Session) :
    FileSystem → List (Turn ι) → List (Turn ι × Except Failure Json) × FileSystem
  | system, [] => ([], system)
  | system, turn :: rest =>
    let answer := (sessions turn.session).request system config turn.method turn.params
    let (outcomes, final) := takeTurns config sessions answer.2 rest
    ((turn, answer.1) :: outcomes, final)

/-- The requests are the same, and so are their outcomes unless they ask for the workspaces. -/
def SameOutcome (left right : Turn ι × Except Failure Json) : Prop :=
  left.1 = right.1 ∧
    (Method.ofName? left.1.method ≠ some .listWorkspaces → left.2 = right.2)

variable [DecidableEq ι]

/-- A session that takes turns with others on its database, all of them in other workspaces, has the
outcomes that it has alone and leaves its workspace as it does alone. -/
theorem takeTurns_seenAlike (config : Config) {session : ι} {left right : FileSystem}
    (shared : ∀ other, (sessions other).seat = (sessions session).seat)
    (apart : ∀ other ≠ session, (sessions session).workspace ≠ (sessions other).workspace)
    (alike : left.SeenAlike right (sessions session).seat (sessions session).workspace)
    (turns : List (Turn ι)) :
    List.Forall₂ SameOutcome
        ((takeTurns config sessions left turns).1.filter fun outcome =>
          outcome.1.session = session)
        (takeTurns config sessions right
          (turns.filter fun turn => turn.session = session)).1 ∧
      (takeTurns config sessions left turns).2.SeenAlike
        (takeTurns config sessions right
          (turns.filter fun turn => turn.session = session)).2
        (sessions session).seat (sessions session).workspace := by
  induction turns generalizing left right with
  | nil => exact ⟨.nil, alike⟩
  | cons turn rest ih =>
      obtain ⟨maker, method, params⟩ := turn
      by_cases own : maker = session
      · subst own
        obtain ⟨same, later⟩ := request_seenAlike alike config method params
        obtain ⟨outcomes, final⟩ := ih later
        rw [List.filter_cons_of_pos (by simp)]
        simp only [takeTurns]
        rw [List.filter_cons_of_pos (by simp)]
        exact ⟨.cons ⟨rfl, same⟩ outcomes, final⟩
      · obtain ⟨one, -, isOne, -⟩ := alike.content
        have found : (sessions maker).database? left = some one := by
          rw [database?, shared]
          exact isOne
        have unseen := seenAlike_request_of_ne config found (apart maker own) method params
        rw [shared] at unseen
        rw [List.filter_cons_of_neg (by simpa using own)]
        simp only [takeTurns]
        rw [List.filter_cons_of_neg (by simpa using own)]
        exact ih (unseen.trans alike)

end Turns

/-! ## Directories of their own -/

/-- The sessions have been started on one database file, each in a directory, and the file system
has only grown since. -/
structure ShareFile {ι : Type} (config : Config) (sessions : ι → Session) (places : ι → Location)
    (location : Location) (system : FileSystem) : Prop where
  /-- The sessions are open, and their workspaces were directories when they were started. -/
  isOpen : ∀ session, ∃ opened, (sessions session).IsOpenSince config opened system ∧
    opened.LeadsToDirectory (sessions session).root (places session)
  /-- The database lies in one file. -/
  seat : ∀ session, (sessions session).seat = .file location

theorem ShareFile.workspace_eq {ι : Type} {config : Config} {sessions : ι → Session}
    {places : ι → Location} {location : Location} {system : FileSystem}
    (share : ShareFile config sessions places location system) (session : ι) :
    (sessions session).workspace = FileSystem.keyText (places session).toText := by
  obtain ⟨opened, isOpen, leads⟩ := share.isOpen session
  exact (isOpen.workspace_eq leads).1

/-- However the paths that lead to them are spelled, directories are known by the same text just
when their locations are the same once backslashes count as slashes, and so, where no name holds a
backslash, just when they are the same directory. Sessions that share a database file notice nothing
of each other unless they ask for the workspaces: in whatever order they make their requests, a
session whose directory is known by another text than those of the others gets the answers that it
gets alone, and leaves its workspace as it does alone. -/
theorem workspaces_stayApart (config : Config) :
    (∀ (system : FileSystem) (left right : Path) (leftPlace rightPlace : Location),
      system.LeadsToDirectory left leftPlace → system.LeadsToDirectory right rightPlace →
        (system.workspaceKey left = system.workspaceKey right ↔
            FileSystem.keyText leftPlace.toText = FileSystem.keyText rightPlace.toText) ∧
          (leftPlace.IsPlain → rightPlace.IsPlain →
            (system.workspaceKey left = system.workspaceKey right ↔ leftPlace = rightPlace))) ∧
      ∀ (ι : Type) [DecidableEq ι] (sessions : ι → Session) (places : ι → Location)
        (location : Location) (system : FileSystem) (session : ι) (turns : List (Turn ι)),
        ShareFile config sessions places location system →
          (∀ other ≠ session, FileSystem.keyText (places other).toText ≠
            FileSystem.keyText (places session).toText) →
            let mixed := takeTurns config sessions system turns
            let alone := takeTurns config sessions system
              (turns.filter fun turn => turn.session = session)
            List.Forall₂ SameOutcome
                (mixed.1.filter fun outcome => outcome.1.session = session) alone.1 ∧
              mixed.2.SeenAlike alone.2 (.file location) (sessions session).workspace := by
  refine ⟨fun system left right leftPlace rightPlace leftLeads rightLeads =>
    ⟨by rw [leftLeads.workspaceKey, rightLeads.workspaceKey],
      leftLeads.workspaceKey_eq_iff rightLeads⟩, ?_⟩
  intro ι _ sessions places location system session turns share apart
  have shared (other : ι) : (sessions other).seat = (sessions session).seat := by
    rw [share.seat, share.seat]
  have others : ∀ other ≠ session, (sessions session).workspace ≠ (sessions other).workspace := by
    intro other isOther same
    rw [share.workspace_eq, share.workspace_eq] at same
    exact apart other isOther same.symm
  obtain ⟨opened, isOpen, -⟩ := share.isOpen session
  have seat := share.seat session
  obtain ⟨database, found⟩ :=
    Option.isSome_iff_exists.mp (isOpen.found.resolve_right (by simp [seat]))
  have separate := takeTurns_seenAlike config shared others
    (.refl found (sessions session).workspace) turns
  rw [seat] at separate
  exact separate

end Session

/-! ## Directories side by side -/

namespace Neighbours

/-- A directory inside another one, and one whose name is spelled like both of them. -/
def system : FileSystem :=
  (((FileSystem.empty ⟨"/"⟩).put ["a"] .directory).put ["a", "b"] .directory).put ["a\\b"] .directory

theorem get?_system (location : Location) :
    system.get? location =
      if location ∈ [[], ["a"], ["a", "b"], ["a\\b"]] then some .directory else none := by
  rw [system, FileSystem.get?_put _ _ _ _ (by simp), FileSystem.get?_put _ _ _ _ (by simp),
    FileSystem.get?_put _ _ _ _ (by simp)]
  simp only [FileSystem.get?, FileSystem.empty]
  cases location with
  | nil => simp
  | cons name rest => simp; grind

theorem leadsToDirectory {path : Path} {place : Location} (clean : path.holdsZero = false)
    (absolute : path.isAbsolute = true) (written : path.text.isEmpty = false)
    (isThere : place ∈ [[], ["a"], ["a", "b"], ["a\\b"]])
    (reaches : path.significant.foldlM system.step [] = .ok place) :
    system.LeadsToDirectory path place := by
  refine FileSystem.leadsToDirectory_iff.mpr ⟨clean, written, ?_, ?_⟩
  · rwa [FileSystem.origin, if_pos absolute]
  · rw [get?_system, if_pos isThere]

theorem step_name {location : Location} {name : String}
    (isThere : location ∈ [[], ["a"], ["a", "b"], ["a\\b"]]) (counts : Path.isIdle name = false)
    (isName : name ≠ "..") (short : name.utf8ByteSize ≤ maxNameBytes) :
    system.step location name = .ok (location ++ [name]) := by
  simp [FileSystem.step, get?_system, isThere, counts, isName, Nat.not_lt.mpr short]

theorem leads_outer : system.LeadsToDirectory ⟨"/a"⟩ ["a"] := by
  have pieces : (⟨"/a"⟩ : Path).significant = ["a"] := by decide
  refine leadsToDirectory (by decide) (by decide) (by decide) (by decide) ?_
  rw [pieces, List.foldlM_cons, step_name (by decide) (by decide) (by decide) (by decide)]
  rfl

theorem leads_inner : system.LeadsToDirectory ⟨"/a/b"⟩ ["a", "b"] := by
  have pieces : (⟨"/a/b"⟩ : Path).significant = ["a", "b"] := by decide
  have outer : system.step [] "a" = .ok ["a"] :=
    step_name (by decide) (by decide) (by decide) (by decide)
  have inner : system.step ["a"] "b" = .ok ["a", "b"] :=
    step_name (by decide) (by decide) (by decide) (by decide)
  refine leadsToDirectory (by decide) (by decide) (by decide) (by decide) ?_
  simp only [pieces, List.foldlM_cons, List.foldlM_nil, outer, inner, bind, Except.bind, pure,
    Except.pure]

theorem leads_backslash : system.LeadsToDirectory ⟨"/a\\b"⟩ ["a\\b"] := by
  have pieces : (⟨"/a\\b"⟩ : Path).significant = ["a\\b"] := by decide
  refine leadsToDirectory (by decide) (by decide) (by decide) (by decide) ?_
  rw [pieces, List.foldlM_cons, step_name (by decide) (by decide) (by decide) (by decide)]
  rfl

/-- The directories of two sessions. -/
def places (isInner : Bool) : Location :=
  if isInner then ["a", "b"] else ["a"]

/-- A session can be started in each of the directories, on one database. -/
theorem exists_shareFile :
    ∃ sessions opened, Session.ShareFile default sessions places ["index.db"] opened := by
  have leadsToFile : system.databaseLocation? ⟨"index.db"⟩ = some ["index.db"] := by
    decide +kernel
  have ensured : system.ensureParent ⟨"index.db"⟩ = (.ok (), system) := by
    refine FileSystem.ensureParent_of_hasParent fun directory isParent => ?_
    cases (by decide : (⟨"index.db"⟩ : Path).parent? = some ⟨""⟩).symm.trans isParent
    exact .inl (by decide)
  have reaches : system.Reaches ⟨"index.db"⟩ (.plain "index.db") (.file ["index.db"]) .fresh :=
    ⟨rfl, by decide, system, ensured, .absent rfl leadsToFile (by rw [get?_system]; rfl) rfl
      (by simp [FileSystem.hasRoom, get?_system]; decide) (by decide)⟩
  have sound : (default : Config).poolIsSound = true := rfl
  obtain ⟨outcome, opened, fares, ⟨fault, rfl, -⟩ | ⟨outer, isOutcome, starts⟩⟩ :=
    Session.start_of_reaches sound reaches ⟨"/a"⟩
  · cases fares with
    | refused isRefused rows version =>
        obtain newer | ⟨readOnly, -⟩ := isRefused
        · exact absurd newer (Database.not_isNewer_of_isOlder Database.isOlder_fresh)
        · cases readOnly
  · have outerSeat : outer.seat = .file ["index.db"] := by
      subst isOutcome
      generalize Seat.file ["index.db"] = seat, opened.content? _ = content at fares ⊢
      cases fares
      rfl
    have outerOpen := Session.IsOpenSince.of_start starts
    obtain ⟨outerRoot, -⟩ := Session.paths_of_start starts
    obtain ⟨inner, again, innerStarts, innerSeat⟩ :=
      outerOpen.isSteady.exists_start_beside ⟨"//a/./b/"⟩
    obtain ⟨innerRoot, -⟩ := Session.paths_of_start innerStarts
    have made := Session.grows_of_start starts
    have later := Session.grows_of_start innerStarts
    have leadsOuter := leads_outer.mono made.toKeepsDirectories
    have leadsInner : again.LeadsToDirectory ⟨"//a/./b/"⟩ ["a", "b"] :=
      (leads_inner.mono (made.trans later).toKeepsDirectories).of_same (by decide)
    refine ⟨fun isInner => if isInner then inner else outer, again, ?_, ?_⟩
    · rintro (- | -)
      · exact ⟨opened, outerOpen.mono later, outerRoot ▸ leadsOuter⟩
      · exact ⟨again, .of_start innerStarts, innerRoot ▸ leadsInner⟩
    · rintro (- | -)
      · exact outerSeat
      · exact innerSeat.trans outerSeat

end Neighbours

namespace Session

theorem workspaces_stayApart_neighbours :
    Neighbours.system.LeadsToDirectory ⟨"/a"⟩ ["a"] ∧
      Neighbours.system.LeadsToDirectory ⟨"/a/b"⟩ ["a", "b"] ∧
      Neighbours.system.workspaceKey ⟨"/a"⟩ ≠ Neighbours.system.workspaceKey ⟨"/a/b"⟩ ∧
      ∃ sessions system, ShareFile default sessions Neighbours.places ["index.db"] system ∧
        ∀ turns : List (Turn Bool),
          let mixed := takeTurns default sessions system turns
          let alone := takeTurns default sessions system
            (turns.filter fun turn => turn.session = true)
          List.Forall₂ SameOutcome
              (mixed.1.filter fun outcome => outcome.1.session = true) alone.1 ∧
            mixed.2.SeenAlike alone.2 (.file ["index.db"]) (sessions true).workspace := by
  obtain ⟨sessions, system, share⟩ := Neighbours.exists_shareFile
  have apart : ∀ other ≠ true, FileSystem.keyText (Neighbours.places other).toText ≠
      FileSystem.keyText (Neighbours.places true).toText := by
    decide +kernel
  have outer : Location.IsPlain ["a"] := by simp [Location.IsPlain]
  have inner : Location.IsPlain ["a", "b"] := by simp [Location.IsPlain]
  obtain ⟨known, separate⟩ := workspaces_stayApart default
  refine ⟨Neighbours.leads_outer, Neighbours.leads_inner, fun same => ?_, sessions, system, share,
    fun turns => separate Bool sessions _ _ system true turns share apart⟩
  obtain ⟨-, isPlace⟩ := known _ _ _ _ _ Neighbours.leads_outer Neighbours.leads_inner
  exact absurd ((isPlace outer inner).mp same) (by decide)

/-- Two directories are known by the same text where the name of one holds a backslash. -/
theorem workspaceKey_backslash :
    Neighbours.system.LeadsToDirectory ⟨"/a/b"⟩ ["a", "b"] ∧
      Neighbours.system.LeadsToDirectory ⟨"/a\\b"⟩ ["a\\b"] ∧
      (["a", "b"] : Location) ≠ ["a\\b"] ∧
      Neighbours.system.workspaceKey ⟨"/a/b"⟩ = Neighbours.system.workspaceKey ⟨"/a\\b"⟩ := by
  refine ⟨Neighbours.leads_inner, Neighbours.leads_backslash, by decide, ?_⟩
  rw [Neighbours.leads_inner.workspaceKey, Neighbours.leads_backslash.workspaceKey]
  decide +kernel

end Session

end CallTrace
