import CallTrace.Json.Fault

/-!
# Scanning a text from left to right

A cursor is what is left of a text together with the number of bytes before it and the length of the
whole text. A scanner takes
something off the front, or stops with a fault at a byte position. The position of a stop is either
that of the cursor or, when the fault is about the character that comes next, one byte further.
-/

namespace CallTrace.Json

/-- A place in a text. -/
structure Cursor where
  /-- The number of bytes before the place. -/
  offset : Nat
  /-- The characters after it. -/
  rest : List Char
  /-- The number of characters in the whole text. -/
  size : Nat
deriving DecidableEq, Repr

/-- A fault at a byte position. -/
structure Stop where
  /-- What is wrong. -/
  fault : Fault
  /-- The number of bytes up to the place where it was noticed. -/
  offset : Nat
deriving DecidableEq, Repr

/-- A scanner that yields a value and moves the cursor, or stops. -/
abbrev Scan := StateT Cursor (Except Stop)

/-- The number of bytes of some characters. -/
def byteCount (characters : List Char) : Nat :=
  characters.foldl (fun bytes character => bytes + character.utf8Size) 0

namespace Cursor

/-- The place at the start of a text. -/
def start (text : String) : Cursor :=
  ⟨0, text.toList, text.length⟩

/-- Another place in the same text. -/
def move (cursor : Cursor) (offset : Nat) (rest : List Char) : Cursor :=
  { cursor with offset, rest }

/-- The place after some of the characters that follow. -/
def skip (cursor : Cursor) (count : Nat) : Cursor :=
  cursor.move (cursor.offset + byteCount (cursor.rest.take count)) (cursor.rest.drop count)

/-- The place after the next character. -/
def next (cursor : Cursor) : Cursor :=
  cursor.skip 1

/-- Whether the data format lets the character stand between two of its signs. -/
def isSpace (character : Char) : Bool :=
  character == ' ' || character == '\n' || character == '\t' || character == '\r'

/-- The place before the next character that is not a space. -/
def skipSpaces (cursor : Cursor) : Cursor :=
  cursor.skip (cursor.rest.takeWhile isSpace).length

/-- Stop because of what lies before the place. -/
def stopHere (cursor : Cursor) (fault : Fault) : Stop :=
  ⟨fault, cursor.offset⟩

/-- Stop because of the byte that comes next, or of the end of the text. -/
def stopNext (cursor : Cursor) (fault : Fault) : Stop :=
  ⟨fault, if cursor.rest.isEmpty then cursor.offset else cursor.offset + 1⟩

end Cursor

namespace Scan

/-- The next character, which is left in place. -/
def peek : Scan (Option Char) := do
  return (← get).rest.head?

/-- Take the next character off. -/
def advance : Scan Unit :=
  modify Cursor.next

/-- Take all spaces off, and peek at what follows. -/
def peekSign : Scan (Option Char) := do
  modify Cursor.skipSpaces
  peek

/-- Stop at the cursor. -/
def failHere {α : Type} (fault : Fault) : Scan α := do
  throw ((← get).stopHere fault)

/-- Stop at the byte after the cursor. -/
def failNext {α : Type} (fault : Fault) : Scan α := do
  throw ((← get).stopNext fault)

/-- Take characters off while they are digits, and yield them. -/
def digits : Scan (List Char) := do
  let taken := (← get).rest.takeWhile Char.isDigit
  modify fun cursor => cursor.skip taken.length
  return taken

/-- Take the letters of a word off, one by one. -/
def word : List Char → Scan Unit
  | [] => pure ()
  | letter :: letters => do
    match ← peek with
    | none => failHere .endInValue
    | some character =>
      if character = letter then
        advance
        word letters
      else
        failNext .expectedWord

end Scan

/-- The line and the column of a byte position: the column restarts after every line break. -/
def lineAndColumn (offset line column : Nat) : List Char → Nat × Nat
  | [] => (line, column)
  | character :: rest =>
    if offset < character.utf8Size then
      (line, column + offset)
    else if character = '\n' then
      lineAndColumn (offset - 1) (line + 1) 0 rest
    else
      lineAndColumn (offset - character.utf8Size) line (column + character.utf8Size) rest

/-- The place of a stop in the text that was scanned. -/
def Stop.misread (stop : Stop) (text : String) : Misread :=
  let (line, column) := lineAndColumn stop.offset 1 0 text.toList
  ⟨stop.fault, line, column⟩

end CallTrace.Json
