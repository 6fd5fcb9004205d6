import CallTrace.FileSystem.Opening
import Mathlib.Logic.Basic

/-!
# Directories that lead to a database

Once the directories that lead to a database have been made they stay, so paths through them go on
leading where they led, and nothing has to be made when the database is opened again.
-/

namespace CallTrace

namespace FileSystem

/-! ## Directories stay -/

theorem ne_nil_of_get?_ne {system : FileSystem} {location : Location}
    (vacant : system.get? location ≠ some .directory) : location ≠ [] := by
  rintro rfl
  exact vacant rfl

/-- Whatever was a directory in the first file system is one in the second. -/
structure KeepsDirectories (before after : FileSystem) : Prop where
  /-- Both have the same working directory. -/
  working : after.working = before.working
  /-- Directories stay. -/
  directory : ∀ location, before.get? location = some .directory →
    after.get? location = some .directory

namespace KeepsDirectories

theorem refl (system : FileSystem) : KeepsDirectories system system :=
  ⟨rfl, fun _ found => found⟩

theorem trans {before middle after : FileSystem} (first : KeepsDirectories before middle)
    (second : KeepsDirectories middle after) : KeepsDirectories before after where
  working := second.working.trans first.working
  directory location found := second.directory location (first.directory location found)

/-- Putting something where there is no directory keeps all directories. -/
theorem put {system : FileSystem} {location : Location}
    (vacant : system.get? location ≠ some .directory) (entry : Entry) :
    KeepsDirectories system (system.put location entry) where
  working := rfl
  directory other found := by
    have below := ne_nil_of_get?_ne vacant
    have apart : other ≠ location := by
      rintro rfl
      exact vacant found
    rw [get?_put system location other entry below, if_neg apart, found]

variable {before after : FileSystem}

theorem origin (keeps : KeepsDirectories before after) (path : Path) :
    after.origin path = before.origin path := by
  rw [FileSystem.origin, keeps.working, FileSystem.origin]

theorem step (keeps : KeepsDirectories before after) {location reached : Location}
    {piece : String} (reaches : before.step location piece = .ok reached) :
    after.step location piece = .ok reached := by
  cases found : before.get? location with
  | none => simp [FileSystem.step, found] at reaches
  | some entry =>
      cases entry with
      | directory =>
          simpa only [FileSystem.step, keeps.directory location found, found] using reaches
      | file content => simp [FileSystem.step, found] at reaches
      | database content => simp [FileSystem.step, found] at reaches

private theorem foldlM_step (keeps : KeepsDirectories before after) (pieces : List String)
    {location reached : Location} (reaches : pieces.foldlM before.step location = .ok reached) :
    pieces.foldlM after.step location = .ok reached := by
  induction pieces generalizing location with
  | nil => exact reaches
  | cons piece rest ih =>
      rw [List.foldlM_cons] at reaches ⊢
      cases next : before.step location piece with
      | error fault =>
          rw [next] at reaches
          cases reaches
      | ok between =>
          rw [next] at reaches
          rw [keeps.step next]
          exact ih reaches

theorem walk (keeps : KeepsDirectories before after) {path : Path} {location : Location}
    (reaches : before.walk path = .ok location) : after.walk path = .ok location := by
  rw [FileSystem.walk] at reaches ⊢
  split at reaches
  · cases reaches
  · rename_i clean
    rw [if_neg clean]
    split at reaches
    · cases reaches
    · rename_i written
      rw [if_neg written, keeps.origin]
      exact keeps.foldlM_step path.pieces reaches

/-- A path that leads somewhere still leads there. -/
theorem locate (keeps : KeepsDirectories before after) {path : Path} {location : Location}
    (reaches : before.locate path = .ok location) : after.locate path = .ok location := by
  rw [FileSystem.locate] at reaches ⊢
  split at reaches
  · cases reaches
  · rename_i short
    rw [if_neg short]
    exact keeps.walk reaches

end KeepsDirectories

theorem isDirectory_iff (system : FileSystem) (path : Path) :
    system.isDirectory path = true ↔
      ∃ location, system.locate path = .ok location ∧
        system.get? location = some .directory := by
  rw [isDirectory, find]
  cases system.locate path with
  | error fault => simp [bind, Except.bind]
  | ok location =>
      simp only [bind, Except.bind, Except.ok.injEq, exists_eq_left']
      cases system.get? location with
      | none => simp
      | some entry => cases entry <;> simp

theorem KeepsDirectories.isDirectory {before after : FileSystem}
    (keeps : KeepsDirectories before after) {path : Path}
    (found : before.isDirectory path = true) : after.isDirectory path = true := by
  obtain ⟨location, reaches, isThere⟩ := (before.isDirectory_iff path).mp found
  exact (after.isDirectory_iff path).mpr
    ⟨location, keeps.locate reaches, keeps.directory location isThere⟩

/-! ## The directories that lead to a database -/

/-- A directory is made where nothing is, or it is there already. -/
theorem made_or_isDirectory_of_ensureDirectory {system made : FileSystem} {path : Path}
    (ensured : system.ensureDirectory path = .ok made) :
    (∃ location, system.locate path = .ok location ∧ system.get? location = none ∧
        made = system.put location .directory) ∨
      made = system ∧ system.isDirectory path = true := by
  rw [ensureDirectory] at ensured
  split at ensured
  · rename_i result making
    cases ensured
    rw [makeDirectory] at making
    cases reaches : system.locate path with
    | error fault => simp [reaches, bind, Except.bind] at making
    | ok location =>
        cases found : system.get? location with
        | some entry => simp [reaches, found, bind, Except.bind] at making
        | none =>
            simp only [reaches, found, bind, Except.bind, Except.ok.injEq] at making
            exact .inl ⟨location, rfl, found, making.symm⟩
  · split at ensured
    · rename_i isThere
      cases ensured
      rw [Bool.and_eq_true] at isThere
      exact .inr ⟨rfl, isThere.2⟩
    · cases ensured

theorem isDirectory_of_ensureDirectory {system made : FileSystem} {path : Path}
    (ensured : system.ensureDirectory path = .ok made) : made.isDirectory path = true := by
  obtain ⟨location, reaches, nothing, rfl⟩ | ⟨rfl, isThere⟩ :=
    made_or_isDirectory_of_ensureDirectory ensured
  · have vacant : system.get? location ≠ some .directory := by simp [nothing]
    have keeps : KeepsDirectories system (system.put location .directory) :=
      .put vacant .directory
    refine (isDirectory_iff _ path).mpr ⟨location, keeps.locate reaches, ?_⟩
    rw [get?_put system location location .directory (ne_nil_of_get?_ne vacant), if_pos rfl]
  · exact isThere

theorem ensureDirectory_of_isDirectory {system : FileSystem} {path : Path}
    (found : system.isDirectory path = true) : system.ensureDirectory path = .ok system := by
  obtain ⟨location, reaches, isThere⟩ := (system.isDirectory_iff path).mp found
  have taken : system.makeDirectory path = .error .alreadyExists := by
    simp [makeDirectory, reaches, isThere, bind, Except.bind]
  simp [ensureDirectory, taken, found]

/-- After the directories that lead to a place have been made, the place is a directory unless it is
where paths begin. -/
theorem isDirectory_of_ensureAncestors {system reached : FileSystem} {path : Path} {levels : Nat}
    (ensured : system.ensureAncestors path (levels + 1) = (.ok (), reached)) :
    path.parent? = none ∨ reached.isDirectory path = true := by
  rw [ensureAncestors] at ensured
  split at ensured
  · rename_i top
    exact Or.inl top
  · split at ensured
    · rename_i making
      cases ensured
      exact Or.inr (isDirectory_of_ensureDirectory making)
    · split at ensured
      · cases ensured
      · split at ensured
        · rename_i making
          cases ensured
          exact Or.inr (isDirectory_of_ensureDirectory making)
        · cases ensured
    · cases ensured

/-- The directory that is to hold the file of a path is there, unless the path has none. -/
def HasParent (system : FileSystem) (path : Path) : Prop :=
  ∀ directory, path.parent? = some directory →
    directory.parent? = none ∨ system.isDirectory directory = true

theorem hasParent_of_ensureParent {system reached : FileSystem} {path : Path}
    (ensured : system.ensureParent path = (.ok (), reached)) : reached.HasParent path := by
  rw [ensureParent] at ensured
  intro other isOther
  split at ensured
  · rename_i none
    rw [none] at isOther
    cases isOther
  · rename_i directory isParent
    cases ancestors : system.ensureDirectories directory with
    | mk outcome final =>
        rw [ancestors] at ensured
        cases outcome with
        | error fault => cases ensured
        | ok done =>
            cases ensured
            rw [isParent] at isOther
            cases isOther
            exact isDirectory_of_ensureAncestors ancestors

theorem ensureParent_of_hasParent {system : FileSystem} {path : Path}
    (parent : system.HasParent path) : system.ensureParent path = (.ok (), system) := by
  rw [ensureParent]
  split
  · rfl
  · rename_i directory isParent
    have ensured : system.ensureDirectories directory = (.ok (), system) := by
      rw [ensureDirectories, ensureAncestors]
      split
      · rfl
      · rename_i above isAbove
        have found : system.isDirectory directory = true :=
          (parent directory isParent).resolve_left (by simp [isAbove])
        rw [ensureDirectory_of_isDirectory found]
    rw [ensured]
    rfl

theorem HasParent.mono {before after : FileSystem} {path : Path}
    (parent : before.HasParent path) (keeps : KeepsDirectories before after) :
    after.HasParent path :=
  fun directory isParent => (parent directory isParent).imp_right keeps.isDirectory

/-- Where a database file lies depends on the working directory only. -/
theorem KeepsDirectories.databaseLocation? {before after : FileSystem}
    (keeps : KeepsDirectories before after) (path : Path) :
    after.databaseLocation? path = before.databaseLocation? path := by
  unfold FileSystem.databaseLocation? textualLocation textualTrail
  rw [keeps.origin]

end FileSystem

end CallTrace
