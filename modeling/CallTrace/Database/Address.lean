import CallTrace.Database.ResultCode
import CallTrace.FileSystem.Path
import CallTrace.Text.Integer
import CallTrace.Text.Percent

/-!
# Addresses of databases

A database is named by a path, or by an address: the scheme `file:`, a name, and parameters that say
how the database is to be used. The name and the parameters may hold percent escapes, and a hash
sign ends the address. An address may lead to a file, to a database in memory that everybody shares
who names it, or to nothing that two connections would have in common.
-/

namespace CallTrace

/-- What a connection may do. -/
inductive Access where
  /-- Read a database that exists. -/
  | readOnly
  /-- Read and change a database that exists. -/
  | readWrite
  /-- Read and change a database, which is created if there is none. -/
  | create
  /-- Keep a database in memory. -/
  | memory
deriving DecidableEq, Repr

namespace Access

/-- The access that a word asks for. -/
def ofText? : String → Option Access
  | "ro" => some readOnly
  | "rw" => some readWrite
  | "rwc" => some create
  | "memory" => some memory
  | _ => none

/-- How much may be done. -/
def level : Access → Nat
  | readOnly => 0
  | readWrite => 1
  | create => 2
  | memory => 3

/-- Whether an access may be narrowed to another one. A database in memory may always be asked
for. -/
def allows (current requested : Access) : Bool :=
  requested = .memory || requested.level ≤ current.level

end Access

/-- The part of the system that keeps the bytes of a database. -/
inductive Driver where
  /-- Files with locks. -/
  | files
  /-- Files that are locked for one program. -/
  | exclusiveFiles
  /-- Files without locks. -/
  | unlockedFiles
  /-- Files that are locked by other files. -/
  | lockFiles
  /-- Memory. -/
  | memory
deriving DecidableEq, Repr

namespace Driver

/-- The name of a driver. -/
def name : Driver → String
  | files => "unix"
  | exclusiveFiles => "unix-excl"
  | unlockedFiles => "unix-none"
  | lockFiles => "unix-dotfile"
  | memory => "memdb"

/-- All drivers. -/
def all : List Driver :=
  [files, exclusiveFiles, unlockedFiles, lockFiles, memory]

/-- The driver with a name. -/
def ofName? (name : String) : Option Driver :=
  all.find? fun driver => driver.name == name

/-- Whether changes can be logged beside a file before they reach it. -/
def canLog : Driver → Bool
  | files => true
  | exclusiveFiles => true
  | _ => false

end Driver

/-- Why an address makes no sense. -/
inductive AddressFault where
  /-- The address is about another computer. -/
  | foreignAuthority (authority : String)
  /-- No access has the name. -/
  | unknownAccess (word : String)
  /-- An access is wider than the one before it. -/
  | widerAccess (word : String)
  /-- No kind of sharing has the name. -/
  | unknownSharing (word : String)
  /-- No driver has the name. -/
  | unknownDriver (name : String)
deriving DecidableEq, Repr

namespace AddressFault

/-- The wording of a fault. -/
def message : AddressFault → String
  | foreignAuthority authority => "invalid uri authority: " ++ authority
  | unknownAccess word => "no such access mode: " ++ word
  | widerAccess word => "access mode not allowed: " ++ word
  | unknownSharing word => "no such cache mode: " ++ word
  | unknownDriver name => "no such vfs: " ++ name

/-- The kind of a fault. -/
def code : AddressFault → ResultCode
  | widerAccess _ => .permission
  | _ => .error

end AddressFault

/-- Where the content of a database is kept. -/
inductive Keeping where
  /-- In a file. -/
  | file (path : Path)
  /-- In memory, for everybody who names it. -/
  | memory (name : String)
  /-- In memory, for one connection. -/
  | connection
deriving DecidableEq, Repr

/-- What an address says. -/
structure Address where
  /-- The name. -/
  name : String
  /-- What may be done. -/
  access : Access
  /-- Whether connections share what they keep in memory. -/
  shared : Bool
  /-- The driver. -/
  driver : Driver
  /-- Whether nobody changes the file. -/
  immutable : Bool
  /-- Whether the file is not locked. -/
  unlocked : Bool
deriving DecidableEq, Repr

/-- A parameter of an address. -/
structure Parameter where
  /-- Its name. -/
  name : String
  /-- Its value. -/
  value : String
deriving DecidableEq, Repr

/-- What stands before the first occurrence of an item and what stands after it. -/
def cutAt {α : Type} [DecidableEq α] (separator : α) (items : List α) : List α × List α :=
  (items.takeWhile (· ≠ separator), (items.dropWhile (· ≠ separator)).drop 1)

namespace Parameter

/-- The parameter that some characters write, unless its name is empty. -/
def ofText? (characters : List Char) : Option Parameter :=
  let (name, value) := cutAt '=' characters
  let parameter : Parameter := ⟨Text.decodePercent name, Text.decodePercent value⟩
  if parameter.name.isEmpty then none else some parameter

/-- The parameters that some characters write, with ampersands between them. -/
def listOfText (characters : List Char) : List Parameter :=
  (Text.split '&' characters).filterMap ofText?

/-- Whether a word means that something is the case. Of a number the lowest byte counts. -/
def isTrue (word : String) : Bool :=
  let digits := word.toList.takeWhile Char.isDigit
  if digits.isEmpty then
    ["on", "yes", "true"].contains (String.ofList (word.toList.map Char.toLower))
  else
    digits.length ≤ 10 && ((Text.digitsValue? digits).getD 0) % 256 != 0

/-- Whether the first parameter with a name means that something is the case. -/
def flag (parameters : List Parameter) (name : String) : Bool :=
  match parameters.find? fun parameter => parameter.name == name with
  | some parameter => isTrue parameter.value
  | none => false

end Parameter

namespace Address

/-- The address of what a plain name stands for. -/
def plain (name : String) : Address where
  name
  access := .create
  shared := false
  driver := .files
  immutable := false
  unlocked := false

/-- The address when a parameter has been taken into account. The name of a driver is looked up only
after all parameters have been read. -/
def apply (state : Address × String) (parameter : Parameter) :
    Except AddressFault (Address × String) :=
  let (address, driver) := state
  match parameter.name with
  | "vfs" => .ok (address, parameter.value)
  | "cache" =>
    match parameter.value with
    | "shared" => .ok ({ address with shared := true }, driver)
    | "private" => .ok ({ address with shared := false }, driver)
    | word => .error (.unknownSharing word)
  | "mode" =>
    match Access.ofText? parameter.value with
    | none => .error (.unknownAccess parameter.value)
    | some access =>
      if address.access.allows access then
        .ok ({ address with access }, driver)
      else
        .error (.widerAccess parameter.value)
  | _ => .ok (address, driver)

/-- The address with a name and parameters. -/
def ofParts (name : String) (parameters : List Parameter) : Except AddressFault Address := do
  let (address, driver) ← parameters.foldlM apply (plain name, Driver.files.name)
  match Driver.ofName? driver with
  | none => throw (.unknownDriver driver)
  | some driver =>
    return { address with
      driver
      immutable := Parameter.flag parameters "immutable"
      unlocked := Parameter.flag parameters "nolock" }

/-- The address that follows the scheme and the authority. -/
def ofRest (characters : List Char) : Except AddressFault Address :=
  let (name, query) := cutAt '?' (cutAt '#' characters).1
  ofParts (Text.decodePercent name) (Parameter.listOfText query)

/-- The address that a path stands for. An authority must be empty or this computer. -/
def ofPath (path : Path) : Except AddressFault Address :=
  match path.text.toList with
  | 'f' :: 'i' :: 'l' :: 'e' :: ':' :: '/' :: '/' :: rest =>
    let authority := String.ofList (rest.takeWhile (· ≠ '/'))
    if authority = "" || authority = "localhost" then
      ofRest (rest.dropWhile (· ≠ '/'))
    else
      .error (.foreignAuthority authority)
  | 'f' :: 'i' :: 'l' :: 'e' :: ':' :: rest => ofRest rest
  | _ => .ok (plain path.text)

/-- Whether the database is kept in memory by its very name or by what may be done with it. -/
def isInMemory (address : Address) : Bool :=
  address.name == ":memory:" || address.access == .memory

/-- Whether a name in memory is known to more than one connection. -/
def isCommon (address : Address) : Bool :=
  address.shared ||
    (!address.isInMemory && address.name.length > 1 &&
      (address.name.startsWith "/" || address.name.startsWith "\\"))

/-- Where the content is kept. -/
def keeping (address : Address) : Keeping :=
  if address.name.isEmpty then
    .connection
  else if address.isInMemory || address.driver = .memory then
    if address.isCommon then .memory (address.driver.name ++ ":" ++ address.name) else .connection
  else
    .file ⟨address.name⟩

/-- Whether nothing can be changed. -/
def isReadOnly (address : Address) : Bool :=
  address.access == .readOnly ||
    (address.immutable && !address.isInMemory && !address.name.isEmpty)

/-- Whether changes can be logged beside the file before they reach it. -/
def canLog (address : Address) : Bool :=
  address.driver.canLog && !address.unlocked && !address.immutable

end Address

end CallTrace
