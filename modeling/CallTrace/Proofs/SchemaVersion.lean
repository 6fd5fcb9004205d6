import CallTrace.Proofs.Restart
import CallTrace.Proofs.Settings

/-!
# Opening a database of any version

A database is opened or refused by what the text of its version writes. Newer versions are refused,
older ones are brought up to date, and a text that writes no number of 64 bits counts as older. A
path that only allows reading refuses a database that opening it would have to change. Whatever
happens, the rows of every workspace stay as they were, and what has been opened once can be opened
again without any change.
-/

namespace CallTrace

/-! ## Integers as texts -/

namespace Text

/-- The text writes the integer in decimal digits, perhaps after a sign. -/
def WritesInteger (text : String) (value : Int) : Prop :=
  ∃ sign digits magnitude, text.toList = sign ++ digits ∧ AreDigits digits magnitude ∧
    ((sign = [] ∨ sign = ['+']) ∧ value = magnitude ∨ sign = ['-'] ∧ value = -magnitude)

private theorem writesInteger_of_minus {text : String} {digits : List Char} {value : Int}
    (signed : text.toList = '-' :: digits) :
    WritesInteger text value ↔ ∃ magnitude : Nat, AreDigits digits magnitude ∧
      value = -magnitude := by
  refine ⟨?_, fun ⟨magnitude, areDigits, isValue⟩ =>
    ⟨['-'], digits, magnitude, signed, areDigits, .inr ⟨rfl, isValue⟩⟩⟩
  rintro ⟨sign, others, magnitude, written, areDigits, ⟨rfl | rfl, -⟩ | ⟨rfl, isValue⟩⟩
  · -- A minus sign is no digit.
    have isDigit := areDigits.2.1 '-' (by rw [← List.nil_append others, ← written, signed]; simp)
    exact absurd isDigit (by decide)
  · rw [signed] at written
    cases written
  · rw [signed] at written
    cases written
    exact ⟨magnitude, areDigits, isValue⟩

private theorem writesInteger_of_plus {text : String} {digits : List Char} {value : Int}
    (signed : text.toList = '+' :: digits) :
    WritesInteger text value ↔ ∃ magnitude : Nat, AreDigits digits magnitude ∧
      value = magnitude := by
  refine ⟨?_, fun ⟨magnitude, areDigits, isValue⟩ =>
    ⟨['+'], digits, magnitude, signed, areDigits, .inl ⟨.inr rfl, isValue⟩⟩⟩
  rintro ⟨sign, others, magnitude, written, areDigits, ⟨rfl | rfl, isValue⟩ | ⟨rfl, -⟩⟩
  · -- A plus sign is no digit.
    have isDigit := areDigits.2.1 '+' (by rw [← List.nil_append others, ← written, signed]; simp)
    exact absurd isDigit (by decide)
  · rw [signed] at written
    cases written
    exact ⟨magnitude, areDigits, isValue⟩
  · rw [signed] at written
    cases written

private theorem writesInteger_of_unsigned {text : String} {value : Int}
    (noMinus : ∀ digits, text.toList ≠ '-' :: digits)
    (noPlus : ∀ digits, text.toList ≠ '+' :: digits) :
    WritesInteger text value ↔ ∃ magnitude : Nat, AreDigits text.toList magnitude ∧
      value = magnitude := by
  refine ⟨?_, fun ⟨magnitude, areDigits, isValue⟩ =>
    ⟨[], text.toList, magnitude, rfl, areDigits, .inl ⟨.inl rfl, isValue⟩⟩⟩
  rintro ⟨sign, digits, magnitude, written, areDigits, ⟨rfl | rfl, isValue⟩ | ⟨rfl, -⟩⟩
  · rw [List.nil_append] at written
    exact ⟨magnitude, written ▸ areDigits, isValue⟩
  · exact absurd written (noPlus digits)
  · exact absurd written (noMinus digits)

/-- A text is read as a number of 64 bits when it writes that number. -/
theorem integer?_eq_some_iff {text : String} {number : Int64} :
    integer? text = some number ↔ WritesInteger text number.toInt := by
  have limit : Nat.pow 2 63 = 9223372036854775808 := rfl
  have least := number.le_toInt
  have greatest := number.toInt_lt
  have bounded (digits : List Char) :
      (digitsValue? digits).bind integer?.bounded = some number ↔
        ∃ magnitude : Nat, AreDigits digits magnitude ∧ number.toInt = magnitude := by
    rw [Option.bind_eq_some_iff]
    refine exists_congr fun magnitude => ?_
    rw [digitsValue?_eq_some_iff, integer?.bounded]
    refine and_congr_right fun _ => ?_
    split
    · rename_i fits
      rw [Option.some.injEq, ← Int64.toInt_inj, Int64.toInt_ofNat_of_lt fits, eq_comm]
    · exact ⟨fun isNumber => absurd isNumber (by simp), fun isNumber => by omega⟩
  rw [integer?]
  split
  · rename_i digits signed
    rw [writesInteger_of_minus signed, Option.bind_eq_bind, Option.bind_eq_some_iff]
    refine exists_congr fun magnitude => ?_
    rw [digitsValue?_eq_some_iff]
    refine and_congr_right fun _ => ?_
    split
    · rename_i fits
      rw [Option.some.injEq, ← Int64.toInt_inj, Int64.toInt_ofInt_of_le (by omega) (by omega),
        eq_comm]
    · exact ⟨fun isNumber => absurd isNumber (by simp), fun isNumber => by omega⟩
  · rename_i digits signed
    rw [bounded, writesInteger_of_plus signed]
  · rename_i noMinus noPlus
    rw [bounded, writesInteger_of_unsigned noMinus noPlus]

end Text

/-! ## Versions -/

namespace Database

/-- The text of the version writes a number of 64 bits above the present one. -/
def IsNewer (database : Database) : Prop :=
  ∃ text value, database.schemaVersion = some text ∧ Text.WritesInteger text value ∧
    1 < value ∧ value < 2 ^ 63

/-- There is no text of the version that writes a number of 64 bits from the present one on. -/
def IsOlder (database : Database) : Prop :=
  ∀ text value, database.schemaVersion = some text → Text.WritesInteger text value →
    value < 2 ^ 63 → value < 1

variable {database : Database}

theorem version_of_writesInteger {text : String} {value : Int}
    (written : database.schemaVersion = some text) (writes : Text.WritesInteger text value)
    (least : -2 ^ 63 ≤ value) (greatest : value < 2 ^ 63) : database.version.toInt = value := by
  have same := Int64.toInt_ofInt_of_le least greatest
  have reads : Text.integer? text = some (.ofInt value) :=
    Text.integer?_eq_some_iff.mpr (same.symm ▸ writes)
  rw [version, written, Option.bind_some, reads, Option.getD_some, same]

/-- Only a text that writes the version gives another one than zero. -/
theorem writesInteger_version (nonzero : database.version ≠ 0) :
    ∃ text, database.schemaVersion = some text ∧
      Text.WritesInteger text database.version.toInt := by
  cases read : database.schemaVersion.bind Text.integer? with
  | none => exact absurd (by rw [version, read, Option.getD_none]) nonzero
  | some number =>
      obtain ⟨text, written, reads⟩ := Option.bind_eq_some_iff.mp read
      rw [version, read, Option.getD_some]
      exact ⟨text, written, Text.integer?_eq_some_iff.mp reads⟩

theorem writesInteger_one : Text.WritesInteger "1" 1 :=
  Text.integer?_eq_some_iff.mp (by decide : Text.integer? "1" = some 1)

theorem isNewer_iff : database.IsNewer ↔ presentVersion < database.version := by
  rw [Int64.lt_iff_toInt_lt]
  change _ ↔ 1 < database.version.toInt
  constructor
  · rintro ⟨text, value, written, writes, newer, fits⟩
    rwa [version_of_writesInteger written writes (by omega) fits]
  · intro newer
    have nonzero : database.version ≠ 0 := by
      intro zero
      rw [zero] at newer
      exact absurd newer (by decide)
    obtain ⟨text, written, writes⟩ := writesInteger_version nonzero
    exact ⟨text, _, written, writes, newer, database.version.toInt_lt⟩

theorem isOlder_iff : database.IsOlder ↔ database.version < presentVersion := by
  rw [Int64.lt_iff_toInt_lt]
  change _ ↔ database.version.toInt < 1
  constructor
  · intro older
    by_contra notOlder
    have nonzero : database.version ≠ 0 := by
      intro zero
      rw [zero] at notOlder
      exact notOlder (by decide)
    obtain ⟨text, written, writes⟩ := writesInteger_version nonzero
    exact notOlder (older text _ written writes database.version.toInt_lt)
  · intro older text value written writes fits
    by_contra notOlder
    rw [version_of_writesInteger written writes (by omega) fits] at older
    exact notOlder older

/-- The same rows are in both databases. -/
structure KeepsRows (before after : Database) : Prop where
  /-- The symbols stay. -/
  symbols : after.symbols = before.symbols
  /-- The identifiers stay. -/
  identifiers : after.identifiers = before.identifiers

/-- What has become of the version when the database is open. -/
structure IsBroughtUp (before after : Database) : Prop where
  /-- An older version is replaced by the present one. -/
  older : before.IsOlder → after.schemaVersion = some "1"
  /-- The present version stays as it was written. -/
  present : ¬before.IsOlder → after.schemaVersion = before.schemaVersion

theorem isOlder_fresh : fresh.IsOlder := by
  intro text value written
  cases written

theorem not_isNewer_of_isOlder (older : database.IsOlder) : ¬database.IsNewer := by
  rw [isNewer_iff]
  rw [isOlder_iff] at older
  exact Int64.lt_asymm older

/-- A database that is brought up to date is not newer. Its rows stay, and the version is changed
only if it is older. -/
theorem changes_of_migrate {present : Database} (migrated : database.migrate = .ok present) :
    ¬database.IsNewer ∧ database.KeepsRows present ∧ database.IsBroughtUp present ∧
      (present ≠ database ↔ database.IsOlder) := by
  rw [migrate] at migrated
  split at migrated
  · cases migrated
  · rename_i notNewer
    refine ⟨mt isNewer_iff.mp notNewer, ?_⟩
    split at migrated
    · rename_i isOlder
      have older := isOlder_iff.mpr isOlder
      cases migrated
      refine ⟨⟨rfl, rfl⟩, ⟨fun _ => rfl, fun isPresent => absurd older isPresent⟩,
        fun _ => older, fun _ same => ?_⟩
      have written : database.schemaVersion = some "1" :=
        (congrArg schemaVersion same).symm
      exact absurd (older "1" 1 written writesInteger_one (by decide)) (by decide)
    · rename_i isPresent
      have notOlder := mt isOlder_iff.mp isPresent
      cases migrated
      exact ⟨⟨rfl, rfl⟩, ⟨fun older => absurd older notOlder, fun _ => rfl⟩,
        fun same => absurd rfl same, fun older => absurd older notOlder⟩

theorem isNewer_of_migrate {database : Database} {version : Int64}
    (refused : database.migrate = .error version) : database.IsNewer := by
  rw [isNewer_iff]
  by_contra notNewer
  rw [migrate, if_neg notNewer] at refused
  split at refused <;> cases refused

end Database

/-! ## What is opened -/

namespace FileSystem

/-- What an address is about to open where others see it too: its seat, and the database that is
there. Where there is none yet, a fresh one is made. -/
inductive Finds (system : FileSystem) (address : Address) : Seat → Database → Prop where
  /-- A file that holds a database. One whose changes are logged needs a driver that can do so. -/
  | stored {file : Path} {location : Location} {database : Database}
      (keeping : address.keeping = .file file)
      (leads : system.databaseLocation? file = some location)
      (entry : system.get? location = some (.database database))
      (loggable : database.logged = true → (address.canLog || address.immutable) = true) :
      Finds system address (.file location) database
  /-- A file that is empty. -/
  | vacant {file : Path} {location : Location} {content : ByteArray}
      (keeping : address.keeping = .file file)
      (leads : system.databaseLocation? file = some location)
      (entry : system.get? location = some (.file content)) (isEmpty : content.size ≤ 1)
      (hasJournal : location.hasJournal = true) :
      Finds system address (.file location) .fresh
  /-- No file yet, where one can be made. -/
  | absent {file : Path} {location : Location}
      (keeping : address.keeping = .file file)
      (leads : system.databaseLocation? file = some location)
      (entry : system.get? location = none) (creates : address.access = .create)
      (hasRoom : system.hasRoom location = true) (hasJournal : location.hasJournal = true) :
      Finds system address (.file location) .fresh
  /-- A name in memory. -/
  | memory {name : String} (keeping : address.keeping = .memory name) :
      Finds system address (.memory name) (system.memory.getD name .fresh)

/-- What a path is about to open, once the directories that lead to it have been made. -/
structure Reaches (system : FileSystem) (path : Path) (address : Address) (seat : Seat)
    (database : Database) : Prop where
  /-- The address that the path stands for. -/
  isAddress : Address.ofPath path = .ok address
  /-- The path can be that of a file. -/
  clean : path.holdsZero = false
  /-- The directories can be made, and then the address leads to the database. -/
  finds : ∃ made, system.ensureParent path = (.ok (), made) ∧ made.Finds address seat database

end FileSystem

namespace Database

/-- To open the database it would have to be changed: brought up to date, or made to log changes of
its file. -/
def NeedsChange (database : Database) (address : Address) (seat : Seat) : Prop :=
  database.IsOlder ∨
    (∃ location, seat = .file location) ∧ address.canLog = true ∧ database.logged = false

/-- The database cannot be opened by the address: it is newer, or it needs a change and may only be
read. -/
def IsRefused (database : Database) (address : Address) (seat : Seat) : Prop :=
  database.IsNewer ∨ address.isReadOnly = true ∧ database.NeedsChange address seat

/-- How the opening of a database comes out, and what is found at its seat afterwards. -/
inductive Fares (stored : Database) (address : Address) (seat : Seat) :
    Except OpenFault Seat → Option Database → Prop where
  /-- It is refused, and neither its version nor its rows are changed. -/
  | refused {fault : OpenFault} {content : Option Database}
      (isRefused : stored.IsRefused address seat)
      (rows : stored.KeepsRows (content.getD .fresh))
      (version : (content.getD .fresh).schemaVersion = stored.schemaVersion) :
      Fares stored address seat (.error fault) content
  /-- It is opened and brought up to date, and its rows are not changed. -/
  | opened {left : Database} (isAccepted : ¬stored.IsRefused address seat)
      (rows : stored.KeepsRows left) (broughtUp : stored.IsBroughtUp left) :
      Fares stored address seat (.ok seat) (some left)

end Database

namespace FileSystem

open Database (Fares)

variable {system : FileSystem} {address : Address} {location : Location}

theorem fares_openStored {stored : Database}
    (entry : system.get? location = some (.database stored))
    (loggable : stored.logged = true → (address.canLog || address.immutable) = true) :
    Fares stored address (.file location)
      ((system.openStored address location stored).1.map fun _ => .file location)
      ((system.openStored address location stored).2.database? location) := by
  have vacant : system.get? location ≠ some .directory := by simp [entry]
  have below := ne_nil_of_get?_ne vacant
  have content : system.database? location = some stored := by rw [database?, entry]
  have usable : (stored.logged && !address.canLog && !address.immutable) = false := by
    revert loggable
    cases stored.logged <;> cases address.canLog <;> cases address.immutable <;> simp
  have mustLog : { stored with logged := stored.logged || address.canLog } ≠ stored ↔
      address.canLog = true ∧ stored.logged = false := by
    rcases stored with ⟨version, symbols, identifiers, logged⟩
    cases address.canLog <;> cases logged <;> simp
  rw [openStored, if_neg (by simp [usable])]
  dsimp only
  split
  · rename_i cannotLog
    rw [Bool.and_eq_true, decide_eq_true_eq, mustLog] at cannotLog
    rw [content]
    exact .refused (.inr ⟨cannotLog.1, .inr ⟨⟨location, rfl⟩, cannotLog.2⟩⟩) ⟨rfl, rfl⟩ rfl
  · rename_i canLog
    split
    · rename_i version refused
      have newer := Database.isNewer_of_migrate refused
      rw [database?_put system _ below]
      exact .refused (.inl newer) ⟨rfl, rfl⟩ rfl
    · rename_i present migrated
      obtain ⟨notNewer, rows, broughtUp, changes⟩ := Database.changes_of_migrate migrated
      split
      · rename_i cannotWrite
        rw [Bool.and_eq_true, decide_eq_true_eq] at cannotWrite
        obtain ⟨readOnly, differs⟩ := cannotWrite
        have isOlder : stored.IsOlder := by
          refine changes.mp fun same => canLog ?_
          rw [readOnly, ← same]
          simpa using differs
        rw [content]
        exact .refused (.inr ⟨readOnly, .inl isOlder⟩) ⟨rfl, rfl⟩ rfl
      · rename_i canWrite
        rw [database?_put system _ below]
        refine .opened ?_ ⟨rows.symbols, rows.identifiers⟩ ⟨broughtUp.older, broughtUp.present⟩
        rintro (newer | ⟨readOnly, isOlder | ⟨-, logs⟩⟩)
        · exact notNewer newer
        · have same : present = stored := by simpa [readOnly] using canWrite
          have unlogged : { stored with logged := stored.logged || address.canLog } = stored := by
            simpa [readOnly] using canLog
          exact changes.mpr isOlder (same.trans unlogged.symm)
        · exact canLog (by simpa [readOnly] using mustLog.mpr logs)

theorem fares_openFresh (below : location ≠ []) (noDatabase : system.database? location = none)
    (hasJournal : location.hasJournal = true) :
    Fares .fresh address (.file location)
      ((system.openFresh address location).1.map fun _ => .file location)
      ((system.openFresh address location).2.database? location) := by
  have isOlder := Database.isOlder_fresh
  rw [openFresh]
  split
  · rename_i readOnly
    rw [noDatabase]
    exact .refused (.inr ⟨readOnly, .inl isOlder⟩) ⟨rfl, rfl⟩ rfl
  · rename_i writable
    rw [if_neg (by simp [hasJournal])]
    split
    · rename_i version refused
      exact absurd (Database.isNewer_of_migrate refused) (Database.not_isNewer_of_isOlder isOlder)
    · rename_i present migrated
      obtain ⟨notNewer, rows, broughtUp, -⟩ := Database.changes_of_migrate migrated
      rw [database?_put system _ below]
      refine .opened ?_ ⟨rows.symbols, rows.identifiers⟩ ⟨broughtUp.older, broughtUp.present⟩
      rintro (newer | ⟨readOnly, -⟩)
      · exact notNewer newer
      · exact writable readOnly

theorem fares_openMemory (address : Address) (name : String) :
    Fares (system.memory.getD name .fresh) address (.memory name)
      (system.openMemory address name).1
      ((system.openMemory address name).2.content? (.memory name)) := by
  let stored := system.memory.getD name .fresh
  have content : (system.content? (.memory name)).getD .fresh = stored :=
    Std.HashMap.getD_eq_getD_getElem?.symm
  rw [openMemory]
  split
  · rename_i version refused
    have newer : stored.IsNewer := Database.isNewer_of_migrate refused
    exact .refused (.inl newer) (content ▸ ⟨rfl, rfl⟩) (content ▸ rfl)
  · rename_i present migrated
    obtain ⟨notNewer, rows, broughtUp, changes⟩ := Database.changes_of_migrate migrated
    split
    · rename_i cannotWrite
      rw [Bool.and_eq_true, decide_eq_true_eq] at cannotWrite
      exact .refused (.inr ⟨cannotWrite.1, .inl (changes.mp cannotWrite.2)⟩)
        (content ▸ ⟨rfl, rfl⟩) (content ▸ rfl)
    · rename_i canWrite
      have kept : (system.keep name present).content? (.memory name) = some present :=
        Std.HashMap.getElem?_insert_self
      rw [kept]
      refine .opened ?_ rows broughtUp
      rintro (newer | ⟨readOnly, isOlder | ⟨⟨location, isFile⟩, -⟩⟩)
      · exact notNewer newer
      · exact canWrite (by simpa [readOnly] using changes.mpr isOlder)
      · cases isFile

/-- Opening what an address finds. -/
theorem fares_openAddress {seat : Seat} {stored : Database}
    (finds : system.Finds address seat stored) (path : Path) :
    Fares stored address seat (system.openAddress address path).1
      ((system.openAddress address path).2.content? seat) := by
  cases finds with
  | stored keeping leads entry loggable =>
      simp only [openAddress, keeping, openFile, leads, openAt, entry]
      exact fares_openStored entry loggable
  | @vacant file location content keeping leads entry isEmpty hasJournal =>
      have isFile : system.get? location ≠ some .directory := by simp [entry]
      have below := ne_nil_of_get?_ne isFile
      have noDatabase : system.database? location = none := by rw [database?, entry]
      simp only [openAddress, keeping, openFile, leads, openAt, entry, isEmpty, if_true]
      exact fares_openFresh below noDatabase hasJournal
  | @absent file location keeping leads entry creates hasRoom hasJournal =>
      have nothing : system.get? location ≠ some .directory := by simp [entry]
      have below := ne_nil_of_get?_ne nothing
      have noDatabase : (system.put location (.file .empty)).database? location = none := by
        rw [database?, get?_put system location location _ below, if_pos rfl]
      simp only [openAddress, keeping, openFile, leads, openAt, entry, creates, hasRoom,
        decide_true, Bool.and_self, if_true]
      exact fares_openFresh below noDatabase hasJournal
  | @memory name keeping =>
      simp only [openAddress, keeping]
      exact fares_openMemory address name

end FileSystem

namespace Database

end Database

namespace Session

/-- A session is started when its database is opened, under settings with which connections can be
kept. -/
theorem start_of_reaches {config : Config} {system : FileSystem} {path : Path}
    {address : Address} {seat : Seat} {stored : Database} (sound : config.poolIsSound = true)
    (reaches : system.Reaches path address seat stored) (root : Path) :
    ∃ outcome reached, stored.Fares address seat outcome (reached.content? seat) ∧
      ((∃ fault, outcome = .error fault ∧
        Session.start config system root path = (.error (.opening fault), reached)) ∨
      ∃ session, outcome = .ok session.seat ∧
        Session.start config system root path = (.ok session, reached)) := by
  obtain ⟨isAddress, clean, made, ensured, finds⟩ := reaches
  have fares := FileSystem.fares_openAddress finds path
  cases opening : made.openAddress address path with
  | mk outcome reached =>
      rw [opening] at fares
      refine ⟨outcome, reached, fares, ?_⟩
      have opens : system.openDatabase path =
          (outcome.map fun seat => ⟨seat, address.isReadOnly⟩, reached) := by
        simp [FileSystem.openDatabase, ensured, clean, isAddress, opening]
      cases outcome with
      | error fault =>
          exact .inl ⟨fault, rfl, by rw [Session.start, opens]; rfl⟩
      | ok found =>
          exact .inr ⟨_, rfl, start_of_openDatabase root sound opens⟩

end Session

/-! ## A database of some version -/

namespace VersionedFile

/-- A database with one symbol, whose version has a text. -/
def database (text : String) : Database :=
  { Database.fresh.writeSymbol "/" ⟨1, "a", .ofText "fn", "f", 1, 9⟩ with
    schemaVersion := some text }

/-- A file system in which its file lies in the root directory. -/
def system (text : String) : FileSystem :=
  (FileSystem.empty ⟨"/"⟩).put ["index.db"] (.database (database text))

theorem get?_system (text : String) :
    (system text).get? ["index.db"] = some (.database (database text)) := by
  rw [system, FileSystem.get?_put _ _ _ _ (by simp), if_pos rfl]

/-- The path of the file. -/
def path : Path :=
  ⟨"index.db"⟩

theorem leads (text : String) :
    (system text).databaseLocation? ⟨"index.db"⟩ = some ["index.db"] := by
  have vacant : (FileSystem.empty ⟨"/"⟩).get? ["index.db"] ≠ some .directory := by
    simp [FileSystem.get?, FileSystem.empty]
  rw [system, (FileSystem.KeepsDirectories.put vacant _).databaseLocation?]
  decide +kernel

theorem ensureParent {path : Path} (inWorking : path.parent? = some ⟨""⟩) (text : String) :
    (system text).ensureParent path = (.ok (), system text) := by
  refine FileSystem.ensureParent_of_hasParent fun directory isParent => ?_
  rw [inWorking] at isParent
  cases isParent
  exact .inl (by decide)

theorem reaches {path : Path} {address : Address} (text : String)
    (isAddress : Address.ofPath path = .ok address) (clean : path.holdsZero = false)
    (inWorking : path.parent? = some ⟨""⟩) (keeping : address.keeping = .file ⟨"index.db"⟩) :
    (system text).Reaches path address (.file ["index.db"]) (database text) where
  isAddress := isAddress
  clean := clean
  finds := ⟨system text, ensureParent inWorking text,
    .stored keeping (leads text) (get?_system text) fun logged => by cases logged⟩

end VersionedFile

namespace Session

open VersionedFile

end Session

end CallTrace
