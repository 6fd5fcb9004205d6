import CallTrace.Proofs.Directories
import CallTrace.Session.Request

/-!
# File systems that look alike

Two file systems look alike when the same lies at every location and under every name. A request is
answered alike in both and leaves file systems that look alike. Two file systems have the same shape
when directories lie at the same locations, and something at the same locations; paths lead to the
same places then.
-/

namespace CallTrace

namespace FileSystem

/-! ## The same shape -/

/-- The same locations are those of directories, and the same ones are occupied. -/
structure SameShape (left right : FileSystem) : Prop where
  /-- Both have the same working directory. -/
  working : left.working = right.working
  /-- Both have the same directories. -/
  directory : ∀ location,
    left.get? location = some .directory ↔ right.get? location = some .directory
  /-- Something lies at the same locations. -/
  occupied : ∀ location, (left.get? location).isSome = (right.get? location).isSome

namespace SameShape

variable {left right : FileSystem}

theorem put_database {system : FileSystem} {location : Location} {stored : Database}
    (found : system.get? location = some (.database stored)) (written : Database) :
    SameShape system (system.put location (.database written)) := by
  have vacant : system.get? location ≠ some .directory := by simp [found]
  have below := ne_nil_of_get?_ne vacant
  refine ⟨rfl, fun other => ?_, fun other => ?_⟩
  · rw [get?_put system location other _ below]
    split
    · rename_i same
      rw [same, found]
      simp
    · exact Iff.rfl
  · rw [get?_put system location other _ below]
    split
    · rename_i same
      rw [same, found]
      rfl
    · rfl

theorem keepsDirectories (same : SameShape left right) : KeepsDirectories left right where
  working := same.working.symm
  directory location := (same.directory location).mp

theorem step (same : SameShape left right) : left.step = right.step := by
  funext location piece
  have directory := same.directory location
  have occupied := same.occupied location
  rw [FileSystem.step, FileSystem.step]
  -- What lies at the location is a directory in both, something else in both, or nothing in both.
  cases found : left.get? location with
  | none =>
      rw [found] at occupied
      cases other : right.get? location with
      | none => rfl
      | some entry =>
          rw [other] at occupied
          cases occupied
  | some entry =>
      cases other : right.get? location with
      | none =>
          rw [found, other] at occupied
          cases occupied
      | some second =>
          rw [found, other] at directory
          cases entry <;> cases second <;> simp_all

theorem walk (same : SameShape left right) : left.walk = right.walk := by
  funext path
  rw [FileSystem.walk, FileSystem.walk, same.step, origin, origin, same.working]

theorem workspaceKey (same : SameShape left right) : left.workspaceKey = right.workspaceKey := by
  funext path
  have absolute : left.absolute path = right.absolute path := by
    rw [FileSystem.absolute, FileSystem.absolute, same.working]
  simp only [FileSystem.workspaceKey, workspacePlace, same.walk, same.occupied, absolute]

end SameShape

/-! ## The same content -/

/-- The same lies at every location, and the same is kept in memory under every name. -/
structure Alike (left right : FileSystem) : Prop where
  /-- Both have the same working directory. -/
  working : left.working = right.working
  /-- The same lies at every location. -/
  entries : ∀ location, left.get? location = right.get? location
  /-- The same is kept in memory. -/
  memory : ∀ name : String, left.memory[name]? = right.memory[name]?

namespace Alike

variable {left middle right : FileSystem}

theorem refl (system : FileSystem) : Alike system system :=
  ⟨rfl, fun _ => rfl, fun _ => rfl⟩

theorem trans (first : Alike left middle) (second : Alike middle right) : Alike left right :=
  ⟨first.working.trans second.working,
    fun location => (first.entries location).trans (second.entries location),
    fun name => (first.memory name).trans (second.memory name)⟩

theorem sameShape (alike : Alike left right) : SameShape left right where
  working := alike.working
  directory location := by rw [alike.entries]
  occupied location := by rw [alike.entries]

theorem database? (alike : Alike left right) (location : Location) :
    left.database? location = right.database? location := by
  rw [FileSystem.database?, FileSystem.database?, alike.entries]

theorem content? (alike : Alike left right) (seat : Seat) :
    left.content? seat = right.content? seat := by
  cases seat with
  | file location => exact alike.database? location
  | memory name => exact alike.memory name
  | nowhere => rfl

theorem readText (alike : Alike left right) (path : Path) :
    left.readText path = right.readText path := by
  have found : left.find path = right.find path := by
    simp only [find, locate, alike.sameShape.walk, alike.entries]
  rw [FileSystem.readText, FileSystem.readText, found]

theorem put (alike : Alike left right) (location : Location) (entry : Entry) :
    Alike (left.put location entry) (right.put location entry) where
  working := alike.working
  memory := alike.memory
  entries other := by
    have others := alike.entries other
    by_cases below : other = []
    · rw [below]
      rfl
    · simp only [get?, List.isEmpty_iff, below, if_false] at others
      simp only [get?, List.isEmpty_iff, below, if_false, FileSystem.put,
        Std.HashMap.getElem?_insert, others]

theorem keep (alike : Alike left right) (name : String) (database : Database) :
    Alike (left.keep name database) (right.keep name database) where
  working := alike.working
  memory other := by
    simp only [FileSystem.keep, Std.HashMap.getElem?_insert, alike.memory]
  entries := alike.entries

theorem store (alike : Alike left right) (database : Database) (seat : Seat) :
    Alike (left.store database seat) (right.store database seat) := by
  cases seat with
  | file location => exact alike.put location _
  | memory name => exact alike.keep name database
  | nowhere => exact alike

theorem put_self {system : FileSystem} {location : Location} {entry : Entry}
    (found : system.get? location = some entry) (below : location ≠ []) :
    Alike (system.put location entry) system where
  working := rfl
  memory _ := rfl
  entries other := by
    rw [get?_put system location other entry below]
    split
    · rename_i same
      rw [same, found]
    · rfl

theorem keep_self {system : FileSystem} {name : String} {database : Database}
    (found : system.memory[name]? = some database) : Alike (system.keep name database) system where
  working := rfl
  entries _ := rfl
  memory other := by
    simp only [FileSystem.keep, Std.HashMap.getElem?_insert]
    split
    · rename_i same
      rw [← eq_of_beq same, found]
    · rfl

end Alike

end FileSystem

/-! ## Requests -/

namespace Session

/-- Two answers are the same and leave file systems that look alike. -/
def AnswersAlike (left right : Except Failure Json × FileSystem) : Prop :=
  left.1 = right.1 ∧ left.2.Alike right.2

variable {left right : FileSystem}

theorem database?_alike (session : Session) (alike : left.Alike right) :
    session.database? left = session.database? right :=
  alike.content? session.seat

theorem read_alike (session : Session) (alike : left.Alike right) {α : Type} (table : String)
    (view : Database → α) : session.read left table view = session.read right table view := by
  rw [read, read, session.database?_alike alike]

theorem inquire_alike (session : Session) (alike : left.Alike right) {α : Type}
    (inquiry : Inquiry α) : session.inquire left inquiry = session.inquire right inquiry := by
  have answers : session.answer left = session.answer right :=
    funext fun query => session.read_alike alike query.table _
  rw [inquire, inquire, answers]

theorem report_alike (session : Session) (alike : left.Alike right) :
    session.report left = session.report right := by
  funext config request direction
  rw [report, report, session.inquire_alike alike]

theorem importDocument_alike (session : Session) (alike : left.Alike right)
    (document : IndexDocument) (replace : Bool) :
    AnswersAlike (session.importDocument left document replace)
      (session.importDocument right document replace) := by
  rw [importDocument, importDocument, session.database?_alike alike]
  split
  · exact ⟨rfl, alike⟩
  · split
    · exact ⟨rfl, alike⟩
    · exact ⟨rfl, alike.store _ session.seat⟩

theorem importFile_alike (session : Session) (alike : left.Alike right) (given : Json) :
    AnswersAlike (session.importFile left given) (session.importFile right given) := by
  have documents (path : Path) : session.document left path = session.document right path := by
    rw [document, document, alike.readText]
  simp only [importFile, documents]
  split
  · exact ⟨rfl, alike⟩
  · exact session.importDocument_alike alike _ _

theorem clear_alike (session : Session) (alike : left.Alike right) :
    AnswersAlike (session.clear left) (session.clear right) := by
  rw [clear, clear, session.database?_alike alike]
  split
  · exact ⟨rfl, alike⟩
  · exact ⟨rfl, alike.store _ session.seat⟩

/-- Where file systems look alike, every request is answered alike. -/
theorem request_alike (config : Config) (session : Session) (alike : left.Alike right)
    (name : String) (given : Json) :
    AnswersAlike (session.request left config name given)
      (session.request right config name given) := by
  rw [request, request]
  cases Method.ofName? name with
  | none => exact ⟨rfl, alike⟩
  | some method =>
      cases method with
      | help => exact ⟨rfl, alike⟩
      | listMethods => exact ⟨rfl, alike⟩
      | stats =>
          refine ⟨?_, alike⟩
          simp only [perform, stats, session.read_alike alike]
      | importDocument => exact session.importFile_alike alike _
      | clear => exact session.clear_alike alike
      | listWorkspaces =>
          refine ⟨?_, alike⟩
          simp only [perform, listWorkspaces, session.read_alike alike]
      | getSymbol =>
          refine ⟨?_, alike⟩
          simp only [perform, getSymbol, session.read_alike alike]
      | findReferences =>
          refine ⟨?_, alike⟩
          simp only [perform, findReferences, session.inquire_alike alike]
      | findReferencesOf =>
          refine ⟨?_, alike⟩
          simp only [perform, findReferencesOf, session.inquire_alike alike]
      | traceCallPath =>
          refine ⟨?_, alike⟩
          simp only [perform, trace, session.report_alike alike]

end Session

end CallTrace
