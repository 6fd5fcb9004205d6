import CallTrace.Json.Reader

/-!
# Readers of records

A record is written as an object with named fields, or as a list of its fields in order. Unknown
fields of an object are passed over. While a record is read, a draft holds the fields that have been
seen; a finished draft is the record.
-/

namespace CallTrace.Json

/-- A field of a record that is drafted as `δ`. -/
structure RecordField (δ : Type) where
  /-- The name of the field. -/
  name : String
  /-- Other names that an object may use for it. -/
  aliases : List String
  /-- Whether a list may end before the field. -/
  omissible : Bool
  /-- Whether the draft has the field. -/
  filled : δ → Bool
  /-- Reads the field and says how it is put into the draft. -/
  reader : Reader (δ → δ)

/-- A record of type `α` that is drafted as `δ`. -/
structure Record (δ α : Type) where
  /-- The name of the record in messages. -/
  name : String
  /-- The draft without any field. -/
  blank : δ
  /-- The fields in order. -/
  fields : List (RecordField δ)
  /-- The record of a draft, or what is missing. -/
  finish : δ → Except Fault α

/-- The value of a field that must be there. -/
def required {α : Type} (name : String) : Option α → Except Fault α
  | some value => .ok value
  | none => .error (.missingField name)

namespace Record

variable {δ α : Type} (record : Record δ α)

/-- What is expected where the record is due. -/
def expectation : String :=
  "struct " ++ record.name

/-- What is expected of a list that writes the record. -/
def listExpectation : String :=
  record.expectation ++ " with " ++ toString record.fields.length ++
    (if record.fields.length = 1 then " element" else " elements")

/-- The field that goes by a name. -/
def fieldNamed? (name : String) : Option (RecordField δ) :=
  record.fields.find? fun field => field.name == name || field.aliases.contains name

/-- Read fields from the items of a list; `index` counts the fields before them. -/
def scanItems (depth index : Nat) (first : Bool) (draft : δ) :
    List (RecordField δ) → Scan (Except Fault δ)
  | [] => return .ok draft
  | field :: rest => do
    if ← Scan.nextItem first then
      let put ← field.reader.scan depth
      scanItems depth (index + 1) false (put draft) rest
    else if field.omissible then
      scanItems depth (index + 1) first draft rest
    else
      return .error (.invalidLength index record.listExpectation)

/-- Read fields from an object. Every field takes a character off, so as many rounds as there are
characters are enough. -/
def scanFields (depth : Nat) (first : Bool) (draft : δ) : Nat → Scan (Except Fault δ)
  | 0 => Scan.failHere .endInObject
  | rounds + 1 => do
    match ← Scan.nextName first with
    | none => return .ok draft
    | some name =>
      match record.fieldNamed? name with
      | none =>
        Scan.colon
        Scan.skipValue
        scanFields depth false draft rounds
      | some field =>
        if field.filled draft then
          return .error (.duplicateField field.name)
        else
          Scan.colon
          let put ← field.reader.scan depth
          scanFields depth false (put draft) rounds

/-- Read fields from the values of a list; `index` counts the fields before them. -/
def draftItems (length index : Nat) (draft : δ) : List (RecordField δ) → List Json → Except Fault δ
  | [], [] => .ok draft
  | [], _ :: _ => .error (.invalidLength length "fewer elements in array")
  | field :: rest, [] =>
    if field.omissible then
      draftItems length (index + 1) draft rest []
    else
      .error (.invalidLength index record.listExpectation)
  | field :: rest, item :: items => do
    let put ← field.reader.ofJson item
    draftItems length (index + 1) (put draft) rest items

/-- Put a named value into a draft. -/
def draftField (draft : δ) (name : String) (value : Json) : Except Fault δ :=
  match record.fieldNamed? name with
  | none => .ok draft
  | some field =>
    if field.filled draft then
      .error (.duplicateField field.name)
    else do
      let put ← field.reader.ofJson value
      return put draft

/-- Put named values into a draft, one after another. -/
def draftFields (draft : δ) : List (String × Json) → Except Fault δ
  | [] => .ok draft
  | (name, value) :: rest => do
    let draft ← record.draftField draft name value
    draftFields draft rest

/-- Reads the record. -/
def reader : Reader α where
  scan depth := do
    match ← Scan.peekSign with
    | none => Scan.failHere .endInValue
    | some '[' =>
      Scan.enter depth fun inner => do
        let draft ← record.scanItems inner 0 true record.blank record.fields
        Scan.close Cursor.closeList (draft >>= record.finish)
    | some '{' =>
      Scan.enter depth fun inner => do
        let draft ← record.scanFields inner true record.blank (← Scan.rounds)
        Scan.close Cursor.closeObject (draft >>= record.finish)
    | some _ => Scan.refuse record.expectation
  ofJson
    | .array items =>
      record.draftItems items.length 0 record.blank record.fields items >>= record.finish
    | .object fields => record.draftFields record.blank fields >>= record.finish
    | value => .error (.invalidType value.found record.expectation)

end Record

end CallTrace.Json
