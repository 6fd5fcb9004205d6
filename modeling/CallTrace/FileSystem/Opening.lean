import CallTrace.Database.Address
import CallTrace.Database.Schema
import CallTrace.FileSystem.Creation

/-!
# Opening databases

A database is opened by its path, which may be an address. The directories that lead to the path are
made first, an absent or empty file becomes a fresh database, and the schema is brought up to the
present version. A database in memory is fresh when it is opened for the first time, and one that is
kept for a single connection is lost to everybody else.
-/

namespace CallTrace

/-- Why a database could not be opened. -/
inductive OpenFault where
  /-- The directory for it could not be made. -/
  | noDirectory (directory : Path) (fault : FileFault)
  /-- There can be no database file at the path. -/
  | noFile (path : Path)
  /-- The path is an address that makes no sense. -/
  | badAddress (path : Path) (fault : AddressFault)
  /-- The files that stand beside the database file cannot be used. -/
  | noCompanion
  /-- The file is no database. -/
  | notDatabase
  /-- The database needs a change, and it may only be read. -/
  | readOnly
  /-- The database has a newer version of the schema. -/
  | newerSchema (version : Int64)
deriving DecidableEq, Repr

namespace OpenFault

/-- The wording of a fault. -/
def message : OpenFault → String
  | noDirectory directory _ => "create db directory " ++ directory.text
  | noFile path => "open sqlite db at " ++ path.text
  | badAddress path _ => "open sqlite db at " ++ path.text
  | noCompanion => "unable to open database file"
  | notDatabase => "file is not a database"
  | readOnly => "attempt to write a readonly database"
  | newerSchema version =>
    "database schema version " ++ toString version.toInt ++ " is newer than supported version " ++
      toString Database.presentVersion.toInt

/-- What lies behind a fault, the nearest cause first. -/
def causes : OpenFault → List String
  | noDirectory _ fault => [fault.message]
  | noFile path =>
    ["unable to open database file: " ++ path.text, ResultCode.cannotOpen.message]
  | badAddress _ fault => [fault.message, fault.code.message]
  | noCompanion => [ResultCode.cannotOpen.message]
  | notDatabase => [ResultCode.notDatabase.message]
  | readOnly => [ResultCode.readOnly.message]
  | newerSchema _ => []

end OpenFault

/-- Where the content of an open database is found. -/
inductive Seat where
  /-- In a file. -/
  | file (location : Location)
  /-- In memory, under a name. -/
  | memory (name : String)
  /-- Nowhere, since no other connection sees it. -/
  | nowhere
deriving DecidableEq, Repr

/-- Greatest number of bytes in the path of a database file with the longest ending that the name of
a file beside it has. -/
def maxDatabasePathBytes : Nat := 512

/-- Number of bytes in the ending of the name of the journal beside a database file. -/
def journalEndingBytes : Nat := 8

/-- Whether the journal of a file can have a name. -/
def Location.hasJournal (location : Location) : Bool :=
  (location.getLast?.getD "").utf8ByteSize + journalEndingBytes ≤ maxNameBytes

namespace FileSystem

variable (system : FileSystem)

/-- Where a piece leads by its text alone. -/
def textualStep (location : Location) (piece : String) : Location :=
  if Path.isIdle piece then
    location
  else if piece = ".." then
    location.dropLast
  else
    location ++ [piece]

/-- The locations that pieces lead to by their text alone, one after another. -/
def textualWalk (location : Location) : List String → List Location
  | [] => []
  | piece :: rest => textualStep location piece :: textualWalk (textualStep location piece) rest

/-- The locations that a path comes by, by its text alone. -/
def textualTrail (path : Path) : List Location :=
  textualWalk (system.origin path) path.pieces

/-- The location that a path leads to by its text alone. -/
def textualLocation (path : Path) : Location :=
  (system.textualTrail path).getLast?.getD (system.origin path)

/-- The location of a database file, unless the way to it has too many bytes. -/
def databaseLocation? (path : Path) : Option Location :=
  let location := system.textualLocation path
  let isShort := (system.textualTrail path).all fun place =>
    place.toText.utf8ByteSize < maxDatabasePathBytes
  if isShort && location.toText.utf8ByteSize + journalEndingBytes ≤ maxDatabasePathBytes then
    some location
  else
    none

/-- Whether a file can be created at a location. -/
def hasRoom (location : Location) : Bool :=
  let name := location.getLast?.getD ""
  match system.get? location.dropLast with
  | some .directory => name.utf8ByteSize ≤ maxNameBytes
  | _ => false

/-- Make a fresh database of a file that is empty. -/
def openFresh (address : Address) (location : Location) :
    Except OpenFault Unit × FileSystem :=
  if address.isReadOnly then
    (.error .readOnly, system)
  else if !location.hasJournal then
    (.error .noCompanion, system)
  else
    match Database.fresh.migrate with
    | .error version => (.error (.newerSchema version), system)
    | .ok present =>
      (.ok (), system.put location (.database { present with logged := address.canLog }))

/-- Open a database that a file holds. One whose changes are logged needs a driver that can do so,
unless nobody changes it. -/
def openStored (address : Address) (location : Location) (stored : Database) :
    Except OpenFault Unit × FileSystem :=
  if stored.logged && !address.canLog && !address.immutable then
    (.error .noCompanion, system)
  else
    let logged := { stored with logged := stored.logged || address.canLog }
    if address.isReadOnly && logged ≠ stored then
      (.error .readOnly, system)
    else
      let reached := system.put location (.database logged)
      match logged.migrate with
      | .error version => (.error (.newerSchema version), reached)
      | .ok present =>
        if address.isReadOnly && present ≠ stored then
          (.error .readOnly, system)
        else
          (.ok (), system.put location (.database present))

/-- Open the database file at a location. -/
def openAt (address : Address) (path : Path) (location : Location) :
    Except OpenFault Unit × FileSystem :=
  match system.get? location with
  | some .directory => (.error (.noFile path), system)
  | some (.database stored) => system.openStored address location stored
  | some (.file content) =>
    if content.size ≤ 1 then
      system.openFresh address location
    else
      (.error .notDatabase, system)
  | none =>
    if address.access = Access.create && system.hasRoom location then
      (system.put location (.file .empty)).openFresh address location
    else
      (.error (.noFile path), system)

/-- Open a database file. -/
def openFile (address : Address) (path file : Path) : Except OpenFault Seat × FileSystem :=
  match system.databaseLocation? file with
  | none => (.error (.noFile path), system)
  | some location =>
    let (outcome, reached) := system.openAt address path location
    (outcome.map fun _ => .file location, reached)

/-- Keep a database in memory. -/
def keep (name : String) (database : Database) : FileSystem :=
  { system with memory := system.memory.insert name database }

/-- Open a database that is kept in memory under a name. -/
def openMemory (address : Address) (name : String) : Except OpenFault Seat × FileSystem :=
  let stored := system.memory.getD name .fresh
  match stored.migrate with
  | .error version => (.error (.newerSchema version), system)
  | .ok present =>
    if address.isReadOnly && present ≠ stored then
      (.error .readOnly, system)
    else
      (.ok (.memory name), system.keep name present)

/-- Open what an address leads to. -/
def openAddress (address : Address) (path : Path) : Except OpenFault Seat × FileSystem :=
  match address.keeping with
  | .file file => system.openFile address path file
  | .memory name => system.openMemory address name
  | .connection => (if address.isReadOnly then .error .readOnly else .ok .nowhere, system)

/-- Make the directories that lead to a database. -/
def ensureParent (path : Path) : Except OpenFault Unit × FileSystem :=
  match path.parent? with
  | none => (.ok (), system)
  | some directory =>
    let (outcome, reached) := system.ensureDirectories directory
    (outcome.mapError (.noDirectory directory), reached)

/-- What is found of a database once it is open. -/
structure Opened where
  /-- Where its content is found. -/
  seat : Seat
  /-- Whether it may only be read. -/
  isReadOnly : Bool
deriving DecidableEq, Repr

/-- Open a database. -/
def openDatabase (path : Path) : Except OpenFault Opened × FileSystem :=
  match system.ensureParent path with
  | (.error fault, reached) => (.error fault, reached)
  | (.ok (), reached) =>
    if path.holdsZero then
      (.error (.noFile path), reached)
    else
      match Address.ofPath path with
      | .error fault => (.error (.badAddress path fault), reached)
      | .ok address =>
        let (outcome, final) := reached.openAddress address path
        (outcome.map fun seat => { seat, isReadOnly := address.isReadOnly }, final)

/-- The database that is found at a seat. -/
def content? : Seat → Option Database
  | .file location => system.database? location
  | .memory name => system.memory[name]?
  | .nowhere => none

/-- Replace the database at a seat. What nobody sees is lost. -/
def store (database : Database) : Seat → FileSystem
  | .file location => system.put location (.database database)
  | .memory name => system.keep name database
  | .nowhere => system

/-- Close a database. What is kept in memory goes when it was not there before the database was
opened, because then nobody else has it open. -/
def close (before : FileSystem) : Seat → FileSystem
  | .memory name =>
    if before.memory.contains name then
      system
    else
      { system with memory := system.memory.erase name }
  | _ => system

end FileSystem

end CallTrace
