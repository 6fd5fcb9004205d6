import CallTrace.Proofs.Effects
import CallTrace.Proofs.Likeness

/-!
# Sessions that are closed and started again

A session that has been started can be started again: the same session comes back, and nothing is
changed by that. This stays so whatever is asked of the session in between, so nothing depends on
whether a session is kept or started anew for every request.
-/

namespace CallTrace

/-! ## Opening changes nothing the second time -/

namespace Database

/-- What is true of a database that has been opened by an address, and enough for another opening to
leave it as it is. -/
structure IsOpenedBy (database : Database) (address : Address) (seat : Seat) : Prop
    extends database.IsCurrent address seat where
  /-- Changes are logged where the address allows it. -/
  logs : ∀ location, seat = .file location → address.canLog = true → database.logged = true

theorem IsOpenedBy.of_heading {database written : Database} {address : Address} {seat : Seat}
    (isOpened : database.IsOpenedBy address seat) (heading : written.heading = database.heading) :
    written.IsOpenedBy address seat := by
  obtain ⟨⟨current, allowed⟩, logs⟩ := isOpened
  obtain ⟨version, logged⟩ := Prod.mk.inj heading
  refine ⟨⟨?_, fun location isFile isLogged => ?_⟩, fun location isFile canLog => ?_⟩
  · exact (congrArg (fun text => (text.bind Text.integer?).getD 0) version).trans current
  · exact allowed location isFile (logged.symm.trans isLogged)
  · exact logged.trans (logs location isFile canLog)

end Database

namespace FileSystem

variable {system reached : FileSystem} {address : Address} {location : Location} {seat : Seat}

theorem openFresh_logs (opens : system.openFresh address location = (.ok (), reached)) :
    ∃ present : Database, (address.canLog = true → present.logged = true) ∧
      reached = system.put location (.database present) := by
  rw [openFresh] at opens
  split at opens
  · cases opens
  · split at opens
    · cases opens
    · split at opens
      · cases opens
      · cases opens
        exact ⟨_, fun canLog => canLog, rfl⟩

theorem openStored_logs {stored : Database}
    (opens : system.openStored address location stored = (.ok (), reached)) :
    ∃ present : Database, (address.canLog = true → present.logged = true) ∧
      reached = system.put location (.database present) := by
  rw [openStored] at opens
  split at opens
  · cases opens
  · simp only at opens
    split at opens
    · cases opens
    · split at opens
      · cases opens
      · rename_i present migrated
        split at opens
        · cases opens
        · cases opens
          refine ⟨present, fun canLog => ?_, rfl⟩
          obtain ⟨-, logged, -, -⟩ := Database.migrate_eq_ok migrated
          simp [logged, canLog]

/-- A file that has been opened holds a database whose changes are logged where the address allows
it. -/
theorem openAt_logs {path : Path}
    (opens : system.openAt address path location = (.ok (), reached)) :
    ∃ present : Database, (address.canLog = true → present.logged = true) ∧
      reached.database? location = some present := by
  have vacant : system.get? location ≠ some .directory := by
    intro isDirectory
    rw [openAt, isDirectory] at opens
    cases opens
  have below := ne_nil_of_get?_ne vacant
  rw [openAt] at opens
  split at opens
  · cases opens
  · obtain ⟨present, logs, rfl⟩ := openStored_logs opens
    exact ⟨present, logs, database?_put _ present below⟩
  · split at opens
    · obtain ⟨present, logs, rfl⟩ := openFresh_logs opens
      exact ⟨present, logs, database?_put _ present below⟩
    · cases opens
  · split at opens
    · obtain ⟨present, logs, rfl⟩ := openFresh_logs opens
      exact ⟨present, logs, database?_put _ present below⟩
    · cases opens

/-- What is found at a seat has been opened by the address; nothing is found where no other
connection sees anything. -/
def IsSeated (system : FileSystem) (address : Address) (seat : Seat) : Prop :=
  (seat = .nowhere ∧ address.isReadOnly = false) ∨
    ∃ database, system.content? seat = some database ∧ database.IsOpenedBy address seat

theorem isSeated_of_openAddress {path : Path}
    (opens : system.openAddress address path = (.ok seat, reached)) :
    reached.IsSeated address seat := by
  obtain ⟨-, -, current⟩ := openAddress_eq_ok opens
  rw [openAddress] at opens
  split at opens
  · rename_i file _
    rw [openFile] at opens
    split at opens
    · cases opens
    · rename_i location _
      cases opening : system.openAt address path location with
      | mk outcome final =>
          rw [opening] at opens
          cases outcome with
          | error fault => cases opens
          | ok done =>
              cases opens
              obtain ⟨present, logs, content⟩ := openAt_logs opening
              exact Or.inr ⟨present, content, current present content, fun _ _ => logs⟩
  · rename_i name _
    rw [openMemory] at opens
    split at opens
    · cases opens
    · rename_i present _
      split at opens
      · cases opens
      · cases opens
        have content : (system.keep name present).content? (.memory name) = some present :=
          Std.HashMap.getElem?_insert_self
        exact Or.inr ⟨present, content, current present content, fun _ isFile => by cases isFile⟩
  · simp only [Prod.mk.injEq] at opens
    obtain ⟨outcome, rfl⟩ := opens
    split at outcome
    · cases outcome
    · rename_i writable
      cases outcome
      exact Or.inl ⟨rfl, Bool.eq_false_iff.mpr writable⟩

/-- What an address has opened it opens again, and nothing is changed by that. -/
theorem openAddress_of_isSeated (path : Path) (leads : system.LeadsTo address seat)
    (seated : system.IsSeated address seat) :
    ∃ reached, system.openAddress address path = (.ok seat, reached) ∧ reached.Alike system := by
  rw [openAddress]
  split
  -- The file holds a database that needs neither a migration nor a log.
  · rename_i file isFile
    rw [LeadsTo, isFile] at leads
    obtain ⟨location, found, rfl⟩ := leads
    obtain ⟨isNowhere, -⟩ | ⟨database, content, ⟨version, allowed⟩, logs⟩ := seated
    · cases isNowhere
    obtain ⟨below, entry⟩ := get?_of_database? content
    have loggable : (database.logged && !address.canLog && !address.immutable) = false := by
      have allowed := allowed location rfl
      revert allowed
      cases database.logged <;> cases address.canLog <;> cases address.immutable <;> simp
    have unchanged : ({ database with logged := database.logged || address.canLog } : Database) =
        database := by
      have logs := logs location rfl
      cases database
      revert logs
      cases address.canLog <;> simp
    refine ⟨system.put location (.database database), ?_, .put_self entry below⟩
    simp only [openFile, found, openAt, entry, openStored, loggable, unchanged,
      Database.migrate_of_version version]
    simp [Except.map]
  · rename_i name isMemory
    rw [LeadsTo, isMemory] at leads
    subst leads
    obtain ⟨isNowhere, -⟩ | ⟨database, content, ⟨version, -⟩, -⟩ := seated
    · cases isNowhere
    have stored : system.memory.getD name .fresh = database := by
      rw [Std.HashMap.getD_eq_getD_getElem?]
      exact congrArg (Option.getD · Database.fresh) content
    refine ⟨system.keep name database, ?_, .keep_self content⟩
    simp [openMemory, stored, Database.migrate_of_version version]
  · rename_i isConnection
    rw [LeadsTo, isConnection] at leads
    subst leads
    obtain ⟨-, writable⟩ | ⟨database, content, -⟩ := seated
    · exact ⟨system, by simp [writable], .refl system⟩
    · cases content

/-- Where a database is found it may be replaced: the shape stays, and the new one is found. -/
theorem store_of_content? {database : Database} (content : system.content? seat = some database)
    (written : Database) :
    SameShape system (system.store written seat) ∧
      (system.store written seat).content? seat = some written := by
  cases seat with
  | file location =>
      obtain ⟨below, entry⟩ := get?_of_database? content
      exact ⟨.put_database entry written, database?_put system written below⟩
  | memory name =>
      exact ⟨⟨rfl, fun _ => Iff.rfl, fun _ => rfl⟩, Std.HashMap.getElem?_insert_self⟩
  | nowhere => cases content

end FileSystem

/-! ## Sessions -/

namespace Session

variable {config : Config} {session : Session} {system reached : FileSystem}

/-- A session that can be started again: what it finds is what opening its database leaves. -/
structure IsSteady (config : Config) (session : Session) (system : FileSystem) : Prop where
  /-- Connections can be kept as the settings say. -/
  sound : config.poolIsSound = true
  /-- The directory that holds the database is there. -/
  parent : system.HasParent session.databasePath
  /-- The path can be that of a file. -/
  clean : session.databasePath.holdsZero = false
  /-- The address that the path stands for leads to the seat of the session. -/
  address : ∃ address, Address.ofPath session.databasePath = .ok address ∧
    session.isReadOnly = address.isReadOnly ∧ system.LeadsTo address session.seat ∧
      system.IsSeated address session.seat
  /-- The workspace is known by the text that the session has for it. -/
  workspace : system.workspaceKey session.root = session.workspace

theorem paths_of_start {root path : Path}
    (starts : start config system root path = (.ok session, reached)) :
    session.root = root ∧ session.databasePath = path ∧
      reached.workspaceKey root = session.workspace := by
  obtain ⟨opens, sound, isPath⟩ := start_eq_ok starts
  rw [start_of_openDatabase root sound opens] at starts
  obtain ⟨known, -⟩ := Prod.mk.inj starts
  have same := Except.ok.inj known
  refine ⟨?_, isPath, ?_⟩
  · rw [← same]
  · rw [← same]

theorem isSteady_of_start {root path : Path}
    (starts : start config system root path = (.ok session, reached)) :
    session.IsSteady config reached := by
  obtain ⟨isRoot, isPath, workspace⟩ := paths_of_start starts
  obtain ⟨opens, sound, -⟩ := start_eq_ok starts
  obtain ⟨before, address, parent, clean, isAddress, readOnly, opening⟩ :=
    FileSystem.openDatabase_eq_ok opens
  obtain ⟨keeps, leads, -⟩ := FileSystem.openAddress_eq_ok opening
  have seated := FileSystem.isSeated_of_openAddress opening
  subst isRoot isPath
  exact ⟨sound, parent.mono keeps, clean, ⟨address, isAddress, readOnly, leads, seated⟩, workspace⟩

namespace IsSteady

/-- A steady session can be started again, and nothing is changed by that. -/
theorem start (steady : session.IsSteady config system) :
    ∃ reached, Session.start config system session.root session.databasePath =
      (.ok session, reached) ∧ reached.Alike system := by
  obtain ⟨sound, parent, clean, ⟨address, isAddress, readOnly, leads, seated⟩, workspace⟩ := steady
  obtain ⟨reached, opens, alike⟩ :=
    FileSystem.openAddress_of_isSeated session.databasePath leads seated
  have reopens : system.openDatabase session.databasePath =
      (.ok ⟨session.seat, session.isReadOnly⟩, reached) := by
    rw [FileSystem.openDatabase, FileSystem.ensureParent_of_hasParent parent]
    simp only [clean, isAddress, opens, readOnly]
    rfl
  refine ⟨reached, ?_, alike⟩
  rw [start_of_openDatabase session.root sound reopens, alike.sameShape.workspaceKey, workspace]

/-- A session stays steady when the rows of its database are replaced. -/
theorem store (steady : session.IsSteady config system) {written : Database}
    (heading : written.heading = (session.found system).heading) :
    session.IsSteady config (session.store system written) := by
  obtain ⟨sound, parent, clean, ⟨address, isAddress, readOnly, leads, seated⟩, workspace⟩ := steady
  obtain ⟨isNowhere, writable⟩ | ⟨database, content, isOpened⟩ := seated
  -- What is written where nothing is found is lost.
  · have unchanged : session.store system written = system := by
      rw [Session.store, isNowhere, FileSystem.store]
    rw [unchanged]
    exact ⟨sound, parent, clean,
      ⟨address, isAddress, readOnly, leads, Or.inl ⟨isNowhere, writable⟩⟩, workspace⟩
  · obtain ⟨same, holds⟩ := FileSystem.store_of_content? content written
    have isFound : session.found system = database := by
      rw [found, database?, content, Option.getD_some]
    rw [isFound] at heading
    exact ⟨sound, parent.mono same.keepsDirectories, clean,
      ⟨address, isAddress, readOnly, leads.mono same.keepsDirectories,
        Or.inr ⟨written, holds, isOpened.of_heading heading⟩⟩,
      same.workspaceKey ▸ workspace⟩

/-- The step: whatever a steady session is asked for, it is steady afterwards. -/
theorem answered {name : String} {answer : Except Failure Json × FileSystem}
    (steady : session.IsSteady config system) (answered : session.Answered system name answer) :
    session.IsSteady config answer.2 := by
  cases answered with
  | failed failure survives => exact steady
  | read result reads => exact steady
  | wrote result written writes agrees => exact steady.store agrees.heading

theorem contains_memory (steady : session.IsSteady config system) {name : String}
    (isMemory : session.seat = .memory name) : system.memory.contains name = true := by
  obtain ⟨address, -, -, -, seated⟩ := steady.address
  obtain ⟨isNowhere, -⟩ | ⟨database, content, -⟩ := seated
  · rw [isMemory] at isNowhere
    cases isNowhere
  · rw [isMemory] at content
    rw [Std.HashMap.contains_eq_isSome_getElem?]
    exact Option.isSome_of_eq_some content

end IsSteady

end Session

end CallTrace
