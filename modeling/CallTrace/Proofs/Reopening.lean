import CallTrace.Proofs.Directories
import CallTrace.Session.Basic

/-!
# Opening a database again

A session is settled when its database is at the present version and its path leads to it. A session
on a database that has just been opened is settled, and it stays so when the database is replaced.
Opening the database of a settled session again succeeds and leaves all rows as they are.
-/

namespace CallTrace

namespace Database

theorem migrate_eq_ok {database present : Database} (migrated : database.migrate = .ok present) :
    present.version = presentVersion ∧ present.logged = database.logged ∧
      present.symbols = database.symbols ∧ present.identifiers = database.identifiers := by
  rw [migrate] at migrated
  split at migrated
  · cases migrated
  · rename_i notNewer
    split at migrated
    · cases migrated
      have written : Text.integer? (toString presentVersion.toInt) = some presentVersion := by
        decide
      refine ⟨?_, rfl, rfl, rfl⟩
      rw [version, Option.bind_some, written, Option.getD_some]
    · rename_i notOlder
      cases migrated
      refine ⟨?_, rfl, rfl, rfl⟩
      exact Int64.le_antisymm (Int64.not_lt.mp notNewer) (Int64.not_lt.mp notOlder)

theorem migrate_of_version {database : Database} (present : database.version = presentVersion) :
    database.migrate = .ok database := by
  simp [migrate, present]

/-- What a database has beside its rows: the version and whether changes are logged. -/
def heading (database : Database) : Option String × Bool :=
  (database.schemaVersion, database.logged)

/-- What is true of a database that has been opened by an address: it has the present version, and
changes of a file are logged only where the address allows it. -/
structure IsCurrent (database : Database) (address : Address) (seat : Seat) : Prop where
  /-- The version is the present one. -/
  version : database.version = presentVersion
  /-- Logging is allowed where it is used. -/
  logged : ∀ location, seat = .file location → database.logged = true →
    (address.canLog || address.immutable) = true

end Database

namespace FileSystem

theorem database?_put {location : Location} (system : FileSystem) (database : Database)
    (below : location ≠ []) :
    (system.put location (.database database)).database? location = some database := by
  rw [database?, get?_put system location location _ below, if_pos rfl]

theorem get?_of_database? {system : FileSystem} {location : Location} {database : Database}
    (found : system.database? location = some database) :
    location ≠ [] ∧ system.get? location = some (.database database) := by
  have entry : system.get? location = some (.database database) := by
    rw [database?] at found
    split at found
    · rename_i content isThere
      cases found
      exact isThere
    · cases found
  have vacant : system.get? location ≠ some .directory := by simp [entry]
  exact ⟨ne_nil_of_get?_ne vacant, entry⟩

/-- Where an address leads. -/
def LeadsTo (system : FileSystem) (address : Address) (seat : Seat) : Prop :=
  match address.keeping with
  | .file file =>
      ∃ location, system.databaseLocation? file = some location ∧ seat = .file location
  | .memory name => seat = .memory name
  | .connection => seat = .nowhere

theorem LeadsTo.mono {before after : FileSystem} {address : Address} {seat : Seat}
    (leads : before.LeadsTo address seat) (keeps : KeepsDirectories before after) :
    after.LeadsTo address seat := by
  unfold LeadsTo at leads ⊢
  split
  · rename_i file isFile
    rw [isFile] at leads
    obtain ⟨location, found, same⟩ := leads
    exact ⟨location, (keeps.databaseLocation? file).trans found, same⟩
  · rename_i name isMemory
    rwa [isMemory] at leads
  · rename_i isConnection
    rwa [isConnection] at leads

/-! ## Opening -/

theorem openFresh_eq_ok {system reached : FileSystem} {address : Address} {location : Location}
    (opens : system.openFresh address location = (.ok (), reached)) :
    ∃ present : Database, present.IsCurrent address (.file location) ∧
      reached = system.put location (.database present) := by
  rw [openFresh] at opens
  split at opens
  · cases opens
  · split at opens
    · cases opens
    · split at opens
      · cases opens
      · rename_i present migrated
        cases opens
        refine ⟨{ present with logged := address.canLog }, ⟨?_, fun _ _ canLog => ?_⟩, rfl⟩
        · exact (Database.migrate_eq_ok migrated).1
        · rw [show address.canLog = true from canLog, Bool.true_or]

theorem openStored_eq_ok {system reached : FileSystem} {address : Address} {location : Location}
    {stored : Database} (opens : system.openStored address location stored = (.ok (), reached)) :
    ∃ present : Database, present.IsCurrent address (.file location) ∧
      reached = system.put location (.database present) := by
  rw [openStored] at opens
  split at opens
  · cases opens
  · rename_i loggable
    simp only at opens
    split at opens
    · cases opens
    · split at opens
      · cases opens
      · rename_i present migrated
        split at opens
        · cases opens
        · cases opens
          obtain ⟨version, logged, -, -⟩ := Database.migrate_eq_ok migrated
          refine ⟨present, ⟨version, fun _ _ isLogged => ?_⟩, rfl⟩
          rw [logged] at isLogged
          revert isLogged loggable
          cases stored.logged <;> cases address.canLog <;> cases address.immutable <;> simp

/-- A file that has been opened holds a database of the present version. -/
theorem openAt_eq_ok {system reached : FileSystem} {address : Address} {path : Path}
    {location : Location} (opens : system.openAt address path location = (.ok (), reached)) :
    KeepsDirectories system reached ∧
      ∃ present : Database, present.IsCurrent address (.file location) ∧
        reached.database? location = some present := by
  have vacant : system.get? location ≠ some .directory := by
    intro isDirectory
    rw [openAt, isDirectory] at opens
    cases opens
  have below := ne_nil_of_get?_ne vacant
  rw [openAt] at opens
  split at opens
  · cases opens
  · obtain ⟨present, current, rfl⟩ := openStored_eq_ok opens
    exact ⟨.put vacant _, present, current, database?_put _ present below⟩
  · split at opens
    · obtain ⟨present, current, rfl⟩ := openFresh_eq_ok opens
      exact ⟨.put vacant _, present, current, database?_put _ present below⟩
    · cases opens
  · split at opens
    · obtain ⟨present, current, rfl⟩ := openFresh_eq_ok opens
      have isFile : (system.put location (.file .empty)).get? location ≠ some .directory := by
        rw [get?_put system location location _ below, if_pos rfl]
        simp
      exact ⟨(KeepsDirectories.put vacant _).trans (.put isFile _), present, current,
        database?_put _ present below⟩
    · cases opens

/-- An address that has been opened leads to the place where it was opened, and what is found there
is of the present version. -/
theorem openAddress_eq_ok {system reached : FileSystem} {address : Address} {path : Path}
    {seat : Seat} (opens : system.openAddress address path = (.ok seat, reached)) :
    KeepsDirectories system reached ∧ reached.LeadsTo address seat ∧
      ∀ database, reached.content? seat = some database → database.IsCurrent address seat := by
  rw [openAddress] at opens
  split at opens
  · rename_i file isFile
    rw [openFile] at opens
    split at opens
    · cases opens
    · rename_i location found
      cases opening : system.openAt address path location with
      | mk outcome final =>
          rw [opening] at opens
          cases outcome with
          | error fault => cases opens
          | ok done =>
              cases opens
              obtain ⟨keeps, present, current, content⟩ := openAt_eq_ok opening
              refine ⟨keeps, ?_, fun database isThere => ?_⟩
              · rw [LeadsTo, isFile]
                exact ⟨location, (keeps.databaseLocation? file).trans found, rfl⟩
              · rw [content?, content] at isThere
                cases isThere
                exact current
  · rename_i name isMemory
    rw [openMemory] at opens
    split at opens
    · cases opens
    · rename_i present migrated
      split at opens
      · cases opens
      · cases opens
        refine ⟨⟨rfl, fun _ found => found⟩, ?_, fun database isThere => ?_⟩
        · rw [LeadsTo, isMemory]
        · rw [content?, keep, Std.HashMap.getElem?_insert_self] at isThere
          cases isThere
          exact ⟨(Database.migrate_eq_ok migrated).1, fun _ isFile => by cases isFile⟩
  · rename_i isConnection
    simp only [Prod.mk.injEq] at opens
    obtain ⟨outcome, rfl⟩ := opens
    split at outcome
    · cases outcome
    · cases outcome
      refine ⟨.refl system, ?_, fun database isThere => ?_⟩
      · rw [LeadsTo, isConnection]
      · cases isThere

/-! ## Opening again -/

/-- The path leads to the place where its database was opened, and the database there is of the
present version. -/
structure IsSettled (system : FileSystem) (path : Path) (opened : Opened) (database : Database) :
    Prop where
  /-- The database is found where it was opened. -/
  content : system.content? opened.seat = some database
  /-- The directory that holds it is there. -/
  parent : system.HasParent path
  /-- The path can be that of a file. -/
  clean : path.holdsZero = false
  /-- The address that the path stands for leads there. -/
  address : ∃ address, Address.ofPath path = .ok address ∧
    opened.isReadOnly = address.isReadOnly ∧ system.LeadsTo address opened.seat ∧
      database.IsCurrent address opened.seat

/-- A database is opened by the address that its path stands for, once the directory is there that
holds it. -/
theorem openDatabase_eq_ok {system reached : FileSystem} {path : Path} {opened : Opened}
    (opens : system.openDatabase path = (.ok opened, reached)) :
    ∃ (before : FileSystem) (address : Address), before.HasParent path ∧ path.holdsZero = false ∧
      Address.ofPath path = .ok address ∧ opened.isReadOnly = address.isReadOnly ∧
        before.openAddress address path = (.ok opened.seat, reached) := by
  rw [openDatabase] at opens
  split at opens
  · cases opens
  · rename_i before ensured
    have parent := hasParent_of_ensureParent ensured
    split at opens
    · cases opens
    · rename_i clean
      split at opens
      · cases opens
      · rename_i address isAddress
        cases opening : before.openAddress address path with
        | mk outcome final =>
            rw [opening] at opens
            cases outcome with
            | error fault => cases opens
            | ok seat =>
                cases opens
                exact ⟨before, address, parent, Bool.eq_false_iff.mpr clean, isAddress, rfl,
                  opening⟩

theorem isSettled_of_openDatabase {system reached : FileSystem} {path : Path} {opened : Opened}
    {database : Database} (opens : system.openDatabase path = (.ok opened, reached))
    (content : reached.content? opened.seat = some database) :
    reached.IsSettled path opened database := by
  obtain ⟨before, address, parent, clean, isAddress, readOnly, opening⟩ := openDatabase_eq_ok opens
  obtain ⟨keeps, leads, current⟩ := openAddress_eq_ok opening
  exact ⟨content, parent.mono keeps, clean, address, isAddress, readOnly, leads,
    current database content⟩

/-- A settled database stays settled when its rows are replaced. -/
theorem IsSettled.store {system : FileSystem} {path : Path} {opened : Opened}
    {database written : Database} (settled : system.IsSettled path opened database)
    (heading : written.heading = database.heading) :
    (system.store written opened.seat).IsSettled path opened written := by
  obtain ⟨content, parent, clean, address, isAddress, readOnly, leads, current⟩ := settled
  obtain ⟨version, logged⟩ := Prod.mk.inj heading
  have stillCurrent : written.IsCurrent address opened.seat :=
    ⟨(congrArg (fun text => (text.bind Text.integer?).getD 0) version).trans current.version,
      fun location isFile isLogged =>
        current.logged location isFile (logged.symm.trans isLogged)⟩
  have keepsAndHolds : KeepsDirectories system (system.store written opened.seat) ∧
      (system.store written opened.seat).content? opened.seat = some written := by
    cases seat : opened.seat with
    | file location =>
        rw [seat] at content
        obtain ⟨below, entry⟩ := get?_of_database? content
        exact ⟨.put (by simp [entry]) _, database?_put system written below⟩
    | memory name =>
        exact ⟨⟨rfl, fun _ found => found⟩, Std.HashMap.getElem?_insert_self⟩
    | nowhere =>
        rw [seat] at content
        cases content
  obtain ⟨keeps, holds⟩ := keepsAndHolds
  exact ⟨holds, parent.mono keeps, clean, address, isAddress, readOnly, leads.mono keeps,
    stillCurrent⟩

private theorem openAddress_of_leadsTo {system : FileSystem} {address : Address} {seat : Seat}
    {database : Database} (path : Path) (writable : address.isReadOnly = false)
    (leads : system.LeadsTo address seat) (content : system.content? seat = some database)
    (current : database.IsCurrent address seat) :
    ∃ reached, system.openAddress address path = (.ok seat, reached) ∧
      ∃ again, reached.content? seat = some again ∧ again.symbols = database.symbols ∧
        again.identifiers = database.identifiers := by
  rw [openAddress]
  split
  · rename_i file isFile
    rw [LeadsTo, isFile] at leads
    obtain ⟨location, found, rfl⟩ := leads
    obtain ⟨below, entry⟩ := get?_of_database? content
    let again : Database := { database with logged := database.logged || address.canLog }
    have current' : again.migrate = .ok again := Database.migrate_of_version current.version
    have loggable : (database.logged && !address.canLog && !address.immutable) = false := by
      have allowed := current.logged location rfl
      revert allowed
      cases database.logged <;> cases address.canLog <;> cases address.immutable <;> simp
    refine ⟨system.put location (.database again), ?_, again,
      database?_put system again below, rfl, rfl⟩
    simp only [openFile, found, openAt, entry, openStored, loggable, writable, Bool.false_and,
      Bool.false_eq_true, if_false]
    rw [show Database.migrate { database with logged := database.logged || address.canLog } =
      .ok again from current']
    rfl
  · rename_i name isMemory
    rw [LeadsTo, isMemory] at leads
    subst leads
    have stored : system.memory.getD name .fresh = database := by
      rw [Std.HashMap.getD_eq_getD_getElem?]
      exact congrArg (Option.getD · Database.fresh) content
    refine ⟨system.keep name database, ?_, database, Std.HashMap.getElem?_insert_self, rfl, rfl⟩
    simp only [openMemory, stored, Database.migrate_of_version current.version, writable,
      Bool.false_and, Bool.false_eq_true, if_false]
  · rename_i isConnection
    rw [LeadsTo, isConnection] at leads
    subst leads
    cases content

/-- A settled database that may be written can be opened again, is settled afterwards, and has the
same rows. -/
theorem IsSettled.openDatabase {system : FileSystem} {path : Path} {opened : Opened}
    {database : Database} (settled : system.IsSettled path opened database)
    (writable : opened.isReadOnly = false) :
    ∃ reached again, system.openDatabase path = (.ok opened, reached) ∧
      reached.IsSettled path opened again ∧ again.symbols = database.symbols ∧
        again.identifiers = database.identifiers := by
  obtain ⟨content, parent, clean, address, isAddress, readOnly, leads, current⟩ := settled
  obtain ⟨reached, opens, again, holds, symbols, identifiers⟩ :=
    openAddress_of_leadsTo path (readOnly.symm.trans writable) leads content current
  have reopened : system.openDatabase path = (.ok opened, reached) := by
    rw [FileSystem.openDatabase, ensureParent_of_hasParent parent]
    simp only [clean, isAddress, opens, Bool.false_eq_true, if_false]
    rw [← readOnly]
    rfl
  exact ⟨reached, again, reopened, isSettled_of_openDatabase reopened holds, symbols, identifiers⟩

end FileSystem

end CallTrace
