import CallTrace.Proofs.Restart
import CallTrace.Proofs.Spelling

/-!
# File systems grow

Nothing is ever taken away from a file system. Directories stay, databases stay databases, and what
lies somewhere is at most replaced. Opening a database only adds to it, also when that comes to
nothing, and so does every request in a session whose database is found.
-/

namespace CallTrace

namespace Path

/-- The path is that of a file whose content is a database, and no address with parameters. -/
def IsPlainFile (path : Path) : Prop :=
  Address.ofPath path = .ok (.plain path.text) ∧ (Address.plain path.text).keeping = .file path

/-- The paths are the same as they are written, or both are those of files and have the same
components. -/
def NamesDatabaseOf (left right : Path) : Prop :=
  left = right ∨ left.same right = true ∧ left.IsPlainFile ∧ right.IsPlainFile

end Path

namespace FileSystem

/-- Directories and databases of the first file system are there in the second, and something lies
wherever something lay. -/
structure Grows (before after : FileSystem) : Prop extends KeepsDirectories before after where
  /-- Something still lies there. -/
  occupied : ∀ location, (before.get? location).isSome = true →
    (after.get? location).isSome = true
  /-- Databases are still there, whatever they hold. -/
  database : ∀ location, (before.database? location).isSome = true →
    (after.database? location).isSome = true
  /-- So are those in memory. -/
  memory : ∀ name : String, (before.memory[name]?).isSome = true →
    (after.memory[name]?).isSome = true

namespace Grows

variable {before middle after : FileSystem}

theorem refl (system : FileSystem) : Grows system system :=
  ⟨.refl system, fun _ found => found, fun _ found => found, fun _ found => found⟩

theorem trans (first : Grows before middle) (second : Grows middle after) :
    Grows before after where
  toKeepsDirectories := first.toKeepsDirectories.trans second.toKeepsDirectories
  occupied location found := second.occupied location (first.occupied location found)
  database location found := second.database location (first.database location found)
  memory name found := second.memory name (first.memory name found)

theorem put {system : FileSystem} {location : Location} {entry : Entry}
    (vacant : system.get? location ≠ some .directory)
    (replaces : system.get? location = none ∨ ∃ database, entry = .database database) :
    Grows system (system.put location entry) where
  toKeepsDirectories := .put vacant entry
  occupied other found := by
    rw [get?_put system location other entry (ne_nil_of_get?_ne vacant)]
    split
    · rfl
    · exact found
  database other found := by
    have below := ne_nil_of_get?_ne vacant
    by_cases same : other = location
    · subst same
      obtain nothing | ⟨database, rfl⟩ := replaces
      · rw [database?, nothing] at found
        cases found
      · rw [database?_put system database below]
        rfl
    · rwa [database?, get?_put_of_ne system entry same, ← database?]
  memory _ found := found

theorem keep (system : FileSystem) (name : String) (database : Database) :
    Grows system (system.keep name database) where
  toKeepsDirectories := ⟨rfl, fun _ found => found⟩
  occupied _ found := found
  database _ found := found
  memory other found := by
    rw [FileSystem.keep, Std.HashMap.getElem?_insert]
    split
    · rfl
    · exact found

end Grows

theorem LeadsNowhere.of_grows {before after : FileSystem} {path : Path}
    (nowhere : after.LeadsNowhere path) (grows : before.Grows after) :
    before.LeadsNowhere path ∧ before.workspaceKey path = after.workspaceKey path := by
  have nowhereBefore : before.LeadsNowhere path := by
    intro location reaches
    have nothing := nowhere location (grows.toKeepsDirectories.walk reaches)
    by_contra something
    have found := grows.occupied location (Option.isSome_iff_ne_none.mpr something)
    rw [nothing] at found
    cases found
  refine ⟨nowhereBefore, ?_⟩
  rw [nowhereBefore.workspaceKey, nowhere.workspaceKey, absolute, absolute,
    grows.toKeepsDirectories.working]

/-! ## Opening -/

variable {system : FileSystem}

theorem grows_ensureDirectory {made : FileSystem} {path : Path}
    (ensured : system.ensureDirectory path = .ok made) : system.Grows made := by
  obtain ⟨location, -, nothing, rfl⟩ | ⟨rfl, -⟩ := made_or_isDirectory_of_ensureDirectory ensured
  · exact .put (by simp [nothing]) (.inl nothing)
  · exact .refl made

/-- Making the directories that lead to a place takes nothing away, also when it comes to nothing. -/
theorem grows_ensureAncestors (system : FileSystem) (path : Path) (levels : Nat) :
    system.Grows (system.ensureAncestors path levels).2 := by
  induction levels generalizing path with
  | zero => exact .refl system
  | succ levels ih =>
      rw [ensureAncestors]
      split
      · exact .refl system
      · rename_i parent _
        have above := ih parent
        split
        · rename_i making
          exact grows_ensureDirectory making
        · split
          · rename_i failed
            rwa [failed] at above
          · rename_i between
            rw [between] at above
            split
            · rename_i making
              exact above.trans (grows_ensureDirectory making)
            · exact above
        · exact .refl system

theorem grows_ensureParent (system : FileSystem) (path : Path) :
    system.Grows (system.ensureParent path).2 := by
  rw [ensureParent]
  split
  · exact .refl system
  · exact system.grows_ensureAncestors _ _

variable {address : Address} {location : Location}

theorem grows_openFresh (vacant : system.get? location ≠ some .directory) :
    system.Grows (system.openFresh address location).2 := by
  rw [openFresh]
  split
  · exact .refl system
  · split
    · exact .refl system
    · split
      · exact .refl system
      · exact .put vacant (.inr ⟨_, rfl⟩)

theorem grows_openStored {stored : Database}
    (entry : system.get? location = some (.database stored)) :
    system.Grows (system.openStored address location stored).2 := by
  have vacant : system.get? location ≠ some .directory := by simp [entry]
  rw [openStored]
  split
  · exact .refl system
  · dsimp only
    split
    · exact .refl system
    · split
      · exact .put vacant (.inr ⟨_, rfl⟩)
      · split
        · exact .refl system
        · exact .put vacant (.inr ⟨_, rfl⟩)

theorem grows_openAt (system : FileSystem) (address : Address) (path : Path)
    (location : Location) : system.Grows (system.openAt address path location).2 := by
  rw [openAt]
  split
  · exact .refl system
  · rename_i entry
    exact grows_openStored entry
  · rename_i entry
    split
    · exact grows_openFresh (by simp [entry])
    · exact .refl system
  · rename_i nothing
    split
    · have vacant : system.get? location ≠ some .directory := by simp [nothing]
      refine (Grows.put vacant (.inl nothing)).trans (grows_openFresh ?_)
      rw [get?_put system location location _ (ne_nil_of_get?_ne vacant), if_pos rfl]
      simp
    · exact .refl system

theorem grows_openAddress (system : FileSystem) (address : Address) (path : Path) :
    system.Grows (system.openAddress address path).2 := by
  rw [openAddress]
  split
  · rw [openFile]
    split
    · exact .refl system
    · exact system.grows_openAt address path _
  · rw [openMemory]
    split
    · exact .refl system
    · split
      · exact .refl system
      · exact .keep system _ _
  · exact .refl system

/-- Opening a database takes nothing away, whether or not it succeeds. -/
theorem grows_openDatabase (system : FileSystem) (path : Path) :
    system.Grows (system.openDatabase path).2 := by
  have ensured := system.grows_ensureParent path
  rw [openDatabase]
  split
  · rename_i failed
    rwa [failed] at ensured
  · rename_i made isMade
    rw [isMade] at ensured
    split
    · exact ensured
    · split
      · exact ensured
      · exact ensured.trans (made.grows_openAddress _ path)

/-! ## Opening again -/

theorem LeadsTo.unique {seat other : Seat} (leads : system.LeadsTo address seat)
    (leadsToo : system.LeadsTo address other) : other = seat := by
  unfold LeadsTo at leads leadsToo
  cases keeping : address.keeping with
  | file file =>
      simp only [keeping] at leads leadsToo
      obtain ⟨location, isLocation, rfl⟩ := leads
      obtain ⟨otherLocation, isOther, rfl⟩ := leadsToo
      exact congrArg Seat.file (Option.some.inj (isOther.symm.trans isLocation))
  | memory name =>
      simp only [keeping] at leads leadsToo
      rw [leads, leadsToo]
  | connection =>
      simp only [keeping] at leads leadsToo
      rw [leads, leadsToo]

end FileSystem

namespace Session

theorem grows_start (config : Config) (system : FileSystem) (root path : Path) :
    system.Grows (start config system root path).2 := by
  have opened := system.grows_openDatabase path
  rw [start]
  split
  · rename_i failed
    rwa [failed] at opened
  · rename_i isOpened
    rw [isOpened] at opened
    split <;> exact opened

theorem grows_of_start {config : Config} {system reached : FileSystem} {root path : Path}
    {outcome : Except Failure Session}
    (starts : start config system root path = (outcome, reached)) : system.Grows reached := by
  simpa only [starts] using grows_start config system root path

theorem grows_store (session : Session) {system : FileSystem}
    (found : (session.database? system).isSome = true ∨ session.seat = .nowhere)
    (written : Database) : system.Grows (session.store system written) := by
  rw [store]
  cases seat : session.seat with
  | file location =>
      obtain isSome | isNowhere := found
      · rw [database?, seat] at isSome
        obtain ⟨stored, content⟩ := Option.isSome_iff_exists.mp isSome
        obtain ⟨-, entry⟩ := FileSystem.get?_of_database? content
        exact .put (by simp [entry]) (.inr ⟨written, rfl⟩)
      · rw [seat] at isNowhere
        cases isNowhere
  | memory name => exact .keep system name written
  | nowhere => exact .refl system

/-- A request takes nothing away where the database of its session is found. -/
theorem grows_request (config : Config) (session : Session) {system : FileSystem}
    (found : (session.database? system).isSome = true ∨ session.seat = .nowhere) (name : String)
    (given : Json) : system.Grows (session.request system config name given).2 := by
  have answered := answered_request config session system name given
  generalize session.request system config name given = answer at answered
  cases answered with
  | failed failure survives => exact .refl system
  | read result reads => exact .refl system
  | wrote result written writes agrees => exact session.grows_store found written

/-! ## Open sessions -/

/-- Where a session has been started, others can be started in other workspaces. -/
theorem IsSteady.exists_start_beside {config : Config} {session : Session} {system : FileSystem}
    (steady : session.IsSteady config system) (root : Path) :
    ∃ other reached, Session.start config system root session.databasePath = (.ok other, reached) ∧
      other.seat = session.seat := by
  obtain ⟨reached, restarts, -⟩ := steady.start
  obtain ⟨opens, sound, -⟩ := start_eq_ok restarts
  exact ⟨_, reached, start_of_openDatabase root sound opens, rfl⟩

/-- The session was started, and the file system that this left behind has only grown since. -/
structure IsOpenSince (config : Config) (session : Session) (opened system : FileSystem) : Prop where
  /-- The session was started. -/
  starts : ∃ before,
    start config before session.root session.databasePath = (.ok session, opened)
  /-- Nothing has been taken away since. -/
  grows : opened.Grows system

namespace IsOpenSince

variable {config : Config} {session : Session} {opened system : FileSystem}

theorem of_start {before : FileSystem} {root path : Path}
    (starts : start config before root path = (.ok session, opened)) :
    session.IsOpenSince config opened opened := by
  obtain ⟨isRoot, isPath, -⟩ := paths_of_start starts
  exact ⟨⟨before, by rw [isRoot, isPath, starts]⟩, .refl opened⟩

theorem mono {after : FileSystem} (isOpen : session.IsOpenSince config opened system)
    (grows : system.Grows after) : session.IsOpenSince config opened after :=
  ⟨isOpen.starts, isOpen.grows.trans grows⟩

theorem isSteady (isOpen : session.IsOpenSince config opened system) :
    session.IsSteady config opened := by
  obtain ⟨before, starts⟩ := isOpen.starts
  exact isSteady_of_start starts

/-- An open session finds its database. -/
theorem found (isOpen : session.IsOpenSince config opened system) :
    (session.database? system).isSome = true ∨ session.seat = .nowhere := by
  obtain ⟨address, -, -, -, ⟨isNowhere, -⟩ | ⟨database, content, -⟩⟩ := isOpen.isSteady.address
  · exact .inr isNowhere
  · left
    rw [database?]
    cases seat : session.seat with
    | file location =>
        rw [seat] at content
        exact isOpen.grows.database location (Option.isSome_of_eq_some content)
    | memory name =>
        rw [seat] at content
        exact isOpen.grows.memory name (Option.isSome_of_eq_some content)
    | nowhere =>
        rw [seat] at content
        cases content

/-- A session whose workspace was a directory when it was started is known by the location of that
directory, which is still there. -/
theorem workspace_eq (isOpen : session.IsOpenSince config opened system) {place : Location}
    (leads : opened.LeadsToDirectory session.root place) :
    session.workspace = FileSystem.keyText place.toText ∧
      system.LeadsToDirectory session.root place := by
  refine ⟨?_, leads.mono isOpen.grows.toKeepsDirectories⟩
  rw [← isOpen.isSteady.workspace, leads.workspaceKey]

/-- A session that is started on the database of an open one finds it in the same place and may do
as much with it. -/
theorem start_again (isOpen : session.IsOpenSince config opened system) {root path : Path}
    {fresh : Session} {reached : FileSystem} (names : path.NamesDatabaseOf session.databasePath)
    (starts : start config system root path = (.ok fresh, reached)) :
    fresh.seat = session.seat ∧ fresh.isReadOnly = session.isReadOnly := by
  obtain ⟨-, isPath, -⟩ := paths_of_start starts
  obtain ⟨address, isAddress, readOnly, leads, -⟩ := isOpen.isSteady.address
  obtain ⟨other, isOther, otherReadOnly, otherLeads, -⟩ := (isSteady_of_start starts).address
  have stillLeads := leads.mono (isOpen.grows.trans (grows_of_start starts)).toKeepsDirectories
  rw [isPath] at isOther
  obtain rfl | ⟨same, ⟨isPlain, inFile⟩, ⟨isPlainToo, inFileToo⟩⟩ := names
  · obtain rfl := Except.ok.inj (isOther.symm.trans isAddress)
    exact ⟨stillLeads.unique otherLeads, otherReadOnly.trans readOnly.symm⟩
  · obtain rfl := Except.ok.inj (isOther.symm.trans isPlain)
    obtain rfl := Except.ok.inj (isAddress.symm.trans isPlainToo)
    refine ⟨?_, otherReadOnly.trans readOnly.symm⟩
    unfold FileSystem.LeadsTo at stillLeads otherLeads
    simp only [inFile, inFileToo] at stillLeads otherLeads
    obtain ⟨location, isLocation, isSeat⟩ := stillLeads
    obtain ⟨otherLocation, isOtherLocation, isOtherSeat⟩ := otherLeads
    rw [isSeat, isOtherSeat, FileSystem.databaseLocation?_eq_some isLocation,
      FileSystem.databaseLocation?_eq_some isOtherLocation,
      FileSystem.textualLocation_eq_of_same reached same]

end IsOpenSince

end Session

end CallTrace
