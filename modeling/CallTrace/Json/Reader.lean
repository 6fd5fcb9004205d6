import CallTrace.Json.Skip

/-!
# Readers of typed values

A reader turns written values into values of a type. It reads either from a text, where it stops at
the first fault it meets from left to right, or from a value that has been built already. Both ways
accept the same values; only the texts know places.
-/

namespace CallTrace.Json

/-- Something that reads values of a type. -/
structure Reader (α : Type) where
  /-- Read from a text, with the number of levels that may still be opened, plus one. -/
  scan : Nat → Scan α
  /-- Read from a value. -/
  ofJson : Json → Except Fault α

/-- How deeply lists and objects may be nested in a text, plus one. -/
def depthLimit : Nat := 128

namespace Scan

/-- Open a level of nesting whose bracket comes next. -/
def enter {α : Type} (depth : Nat) (inside : Nat → Scan α) : Scan α := do
  if depth ≤ 1 then
    failNext .tooDeep
  else
    advance
    inside (depth - 1)

/-- Whether another item follows in a list, of which the first needs no comma before it. -/
def nextItem (first : Bool) : Scan Bool := do
  match ← peekSign with
  | none => failHere .endInList
  | some ']' => return false
  | some sign =>
    if !first && sign == ',' then
      advance
      match ← peekSign with
      | none => failHere .endInValue
      | some ']' => failNext .trailingComma
      | some _ => return true
    else if first then
      return true
    else
      failNext .expectedListEnd

/-- The name of the next field of an object, of which the first needs no comma before it. -/
def nextName (first : Bool) : Scan (Option String) := do
  match ← peekSign with
  | none => failHere .endInObject
  | some '}' => return none
  | some sign =>
    let following ←
      if !first && sign == ',' then
        advance
        peekSign
      else if first then
        pure (some sign)
      else
        failNext .expectedObjectEnd
    match following with
    | none => failHere .endInValue
    | some '"' =>
      advance
      return some (← quotation)
    | some '}' => failNext .trailingComma
    | some _ => failNext .nameNotText

end Scan

namespace Cursor

/-- Close a list: the outcome, and the cursor where closing it came to an end. -/
def closeList (cursor : Cursor) : Except Stop Unit × Cursor :=
  let cursor := cursor.skipSpaces
  match cursor.rest with
  | [] => (.error (cursor.stopHere .endInList), cursor)
  | ']' :: _ => (.ok (), cursor.next)
  | ',' :: _ =>
    let cursor := cursor.next.skipSpaces
    let fault := if cursor.rest.head? == some ']' then .trailingComma else .trailingCharacters
    (.error (cursor.stopNext fault), cursor)
  | _ => (.error (cursor.stopNext .trailingCharacters), cursor)

/-- Close an object: the outcome, and the cursor where closing it came to an end. -/
def closeObject (cursor : Cursor) : Except Stop Unit × Cursor :=
  let cursor := cursor.skipSpaces
  match cursor.rest with
  | [] => (.error (cursor.stopHere .endInObject), cursor)
  | '}' :: _ => (.ok (), cursor.next)
  | ',' :: _ => (.error (cursor.stopNext .trailingComma), cursor)
  | _ => (.error (cursor.stopNext .trailingCharacters), cursor)

end Cursor

namespace Scan

/-- Close what was opened, after its content has been read. A content that was refused for its
meaning is reported at the place where closing came to an end, whether that succeeded or not. -/
def close {α : Type} (closing : Cursor → Except Stop Unit × Cursor) (content : Except Fault α) :
    Scan α := do
  let (outcome, cursor) := closing (← get)
  set cursor
  match content with
  | .error fault => failHere fault
  | .ok value =>
    outcome
    return value

/-- The items of a list up to its end. Every item takes a character off, so as many rounds as there
are characters are enough. -/
def items {α : Type} (item : Scan α) (first : Bool) : Nat → Scan (List α)
  | 0 => failHere .endInList
  | rounds + 1 => do
    if ← nextItem first then
      let value ← item
      let rest ← items item false rounds
      return value :: rest
    else
      return []

/-- The fields of an object up to its end, in the order in which they are written. -/
def fields {α : Type} (value : Scan α) (first : Bool) : Nat → Scan (List (String × α))
  | 0 => failHere .endInObject
  | rounds + 1 => do
    match ← nextName first with
    | none => return []
    | some name =>
      colon
      let field ← value
      let rest ← fields value false rounds
      return (name, field) :: rest

/-- As many rounds as the text can take. -/
def rounds : Scan Nat := do
  return (← get).size + 1

/-- A list whose bracket comes next. -/
def list {α : Type} (item : Nat → Scan α) (depth : Nat) : Scan (List α) :=
  enter depth fun inner => do
    let values ← items (item inner) true (← rounds)
    close Cursor.closeList (.ok values)

/-- Any value, with the given number of levels that may still be opened, plus one. -/
def value : Nat → Scan Json
  | 0 => failNext .tooDeep
  | depth + 1 => do
    match ← peekSign with
    | none => failHere .endInValue
    | some 'n' =>
      advance
      word ['u', 'l', 'l']
      return .null
    | some 't' =>
      advance
      word ['r', 'u', 'e']
      return .boolean true
    | some 'f' =>
      advance
      word ['a', 'l', 's', 'e']
      return .boolean false
    | some '"' =>
      advance
      return .text (← quotation)
    | some '-' =>
      advance
      return .number (← numeral true)
    | some '[' =>
      enter (depth + 1) fun _ => do
        let values ← items (value depth) true (← rounds)
        close Cursor.closeList (.ok (.array values))
    | some '{' =>
      enter (depth + 1) fun _ => do
        let named ← fields (value depth) true (← rounds)
        close Cursor.closeObject (.ok (ofFields named))
    | some first =>
      if first.isDigit then return .number (← numeral false) else failNext .expectedValue

/-- Refuse the value that comes next, which is not of the expected type. A scalar is read first, and
may turn out to be faulty in itself. -/
def refuse {α : Type} (expected : String) : Scan α := do
  match ← peek with
  | some 'n' =>
    advance
    word ['u', 'l', 'l']
    failHere (.invalidType .null expected)
  | some 't' =>
    advance
    word ['r', 'u', 'e']
    failHere (.invalidType (.boolean true) expected)
  | some 'f' =>
    advance
    word ['a', 'l', 's', 'e']
    failHere (.invalidType (.boolean false) expected)
  | some '"' =>
    advance
    let value ← quotation
    failHere (.invalidType (.text value) expected)
  | some '-' =>
    advance
    let value ← numeral true
    failHere (.invalidType (.number value) expected)
  | some '[' => failHere (.invalidType .sequence expected)
  | some '{' => failHere (.invalidType .map expected)
  | some first =>
    if first.isDigit then
      let value ← numeral false
      failHere (.invalidType (.number value) expected)
    else
      failNext .expectedValue
  | none => failNext .expectedValue

/-- A value that was read and must still be judged: a refusal is reported where the cursor is. -/
def judge {α : Type} : Except Fault α → Scan α
  | .ok value => pure value
  | .error fault => failHere fault

end Scan

/-- The 64-bit signed integer that a number is. -/
def Number.int64 : Number → Except Fault Int64
  | .integer value =>
    if Int64.minValue.toInt ≤ value ∧ value ≤ Int64.maxValue.toInt then
      .ok (Int64.ofInt value)
    else
      .error (.invalidValue (.number (.integer value)) "i64")
  | .real value => .error (.invalidType (.number (.real value)) "i64")

/-- The 64-bit count that a number is. -/
def Number.count : Number → Except Fault Nat
  | .integer value =>
    if 0 ≤ value ∧ value < (UInt64.size : Int) then
      .ok value.toNat
    else
      .error (.invalidValue (.number (.integer value)) "usize")
  | .real value => .error (.invalidType (.number (.real value)) "usize")

namespace Reader

/-- Apply a function to what is read. -/
def map {α β : Type} (f : α → β) (reader : Reader α) : Reader β where
  scan depth := f <$> reader.scan depth
  ofJson value := f <$> reader.ofJson value

/-- Reads a number that a function accepts. -/
def number {α : Type} (expected : String) (accept : Number → Except Fault α) : Reader α where
  scan _ := do
    match ← Scan.peekSign with
    | none => Scan.failHere .endInValue
    | some '-' =>
      Scan.advance
      Scan.judge (accept (← Scan.numeral true))
    | some first =>
      if first.isDigit then
        Scan.judge (accept (← Scan.numeral false))
      else
        Scan.refuse expected
  ofJson
    | .number value => accept value
    | value => .error (.invalidType value.found expected)

/-- Reads a 64-bit signed integer. -/
def int64 : Reader Int64 :=
  number "i64" Number.int64

/-- Reads a 64-bit count. -/
def count : Reader Nat :=
  number "usize" Number.count

/-- Reads a text. -/
def text : Reader String where
  scan _ := do
    match ← Scan.peekSign with
    | none => Scan.failHere .endInValue
    | some '"' =>
      Scan.advance
      Scan.quotation
    | some _ => Scan.refuse "a string"
  ofJson
    | .text value => .ok value
    | value => .error (.invalidType value.found "a string")

/-- Reads a truth value. -/
def boolean : Reader Bool where
  scan _ := do
    match ← Scan.peekSign with
    | none => Scan.failHere .endInValue
    | some 't' =>
      Scan.advance
      Scan.word ['r', 'u', 'e']
      return true
    | some 'f' =>
      Scan.advance
      Scan.word ['a', 'l', 's', 'e']
      return false
    | some _ => Scan.refuse "a boolean"
  ofJson
    | .boolean value => .ok value
    | value => .error (.invalidType value.found "a boolean")

/-- Reads any value as it is. -/
def any : Reader Json where
  scan := Scan.value
  ofJson := .ok

/-- Reads a value or its absence. -/
def optional {α : Type} (reader : Reader α) : Reader (Option α) where
  scan depth := do
    if (← Scan.peekSign) == some 'n' then
      Scan.advance
      Scan.word ['u', 'l', 'l']
      return none
    else
      some <$> reader.scan depth
  ofJson
    | .null => .ok none
    | value => some <$> reader.ofJson value

/-- Reads a list. -/
def list {α : Type} (reader : Reader α) : Reader (List α) where
  scan depth := do
    match ← Scan.peekSign with
    | none => Scan.failHere .endInValue
    | some '[' => Scan.list reader.scan depth
    | some _ => Scan.refuse "a sequence"
  ofJson
    | .array items => items.mapM reader.ofJson
    | value => .error (.invalidType value.found "a sequence")

/-- Read a whole text, after which nothing but spaces may follow. -/
def readText {α : Type} (reader : Reader α) (text : String) : Except Misread α :=
  let whole : Scan α := do
    let value ← reader.scan depthLimit
    if (← Scan.peekSign).isSome then
      Scan.failNext .trailingCharacters
    return value
  match whole.run (Cursor.start text) with
  | .ok (value, _) => .ok value
  | .error stop => .error (stop.misread text)

end Reader

/-- Read a text as any value. -/
def parse (text : String) : Except Misread Json :=
  Reader.any.readText text

end CallTrace.Json
