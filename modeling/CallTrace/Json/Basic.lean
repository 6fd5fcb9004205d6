import CallTrace.Number.Binary64

/-!
# Structured data

The values of the JSON data format. The fields of an object are kept in increasing order of their
names, each name once, so two objects with the same fields are the same value.
-/

namespace CallTrace

/-- A number of the data format: whole when it is written without point and exponent and fits into
64 bits, a binary64 number otherwise. -/
inductive Json.Number where
  /-- A whole number. -/
  | integer (value : Int)
  /-- A number with a point or an exponent, or too large for 64 bits. -/
  | real (value : Binary64)
deriving DecidableEq, Repr

/-- A value of the data format. -/
inductive Json where
  /-- The absent value. -/
  | null
  /-- A truth value. -/
  | boolean (value : Bool)
  /-- A number. -/
  | number (value : Json.Number)
  /-- A text. -/
  | text (value : String)
  /-- A list of values. -/
  | array (items : List Json)
  /-- Named values, in increasing order of their names. -/
  | object (fields : List (String × Json))
deriving Repr, Inhabited

namespace Json

/-- Set a field in fields that are in order; the value of a name that is already there is
replaced. -/
def setField (name : String) (value : Json) : List (String × Json) → List (String × Json)
  | [] => [(name, value)]
  | (first, old) :: rest =>
    if name < first then
      (name, value) :: (first, old) :: rest
    else if name = first then
      (name, value) :: rest
    else
      (first, old) :: setField name value rest

theorem lookup_field_cons (name other : String) (value : Json) (rest : List (String × Json)) :
    ((name, value) :: rest).lookup other =
      if other = name then some value else rest.lookup other := by
  by_cases same : other = name
  · simp [same]
  · simp [List.lookup_cons, same, beq_false_of_ne same]

/-- A field that has been set has its value, and the others are as before. -/
theorem lookup_setField (name other : String) (value : Json) (fields : List (String × Json)) :
    (setField name value fields).lookup other =
      if other = name then some value else fields.lookup other := by
  induction fields with
  | nil => exact lookup_field_cons name other value []
  | cons field rest induction =>
    obtain ⟨first, old⟩ := field
    simp only [setField]
    split
    · exact lookup_field_cons name other value _
    · split
      next equal =>
        simp only [lookup_field_cons, equal]
        split <;> rfl
      next different =>
        simp only [lookup_field_cons, induction]
        by_cases same : other = first
        · simp [same, Ne.symm different]
        · simp [same]

/-- The object with the given fields; the last value of a repeated name counts. -/
def ofFields (fields : List (String × Json)) : Json :=
  .object (fields.foldl (fun placed field => setField field.1 field.2 placed) [])

/-- The value of a field, when the value is an object that has it. -/
def field? : Json → String → Option Json
  | .object fields, name => fields.lookup name
  | _, _ => none

/-- The text, when the value is one. -/
def text? : Json → Option String
  | .text value => some value
  | _ => none

/-- The truth value, when the value is one. -/
def boolean? : Json → Option Bool
  | .boolean value => some value
  | _ => none

/-- A whole number. -/
def integer (value : Int) : Json :=
  .number (.integer value)

/-- A 64-bit signed integer. -/
def ofInt64 (value : Int64) : Json :=
  integer value.toInt

/-- A count. -/
def ofNat (value : Nat) : Json :=
  integer value

/-- A value that may be absent. -/
def ofOption {α : Type} (encode : α → Json) : Option α → Json
  | some value => encode value
  | none => .null

/-- A list of values. -/
def ofList {α : Type} (encode : α → Json) (values : List α) : Json :=
  .array (values.map encode)

end Json

end CallTrace
