import CallTrace.Json.Basic
import CallTrace.Number.Shortest
import CallTrace.Text.Quoted

/-!
# Why a value could not be read

A fault says what is wrong with a written text, or with a value that should have had another shape.
A misread is a fault together with the place in the text where it was noticed.
-/

namespace CallTrace.Json

/-- What was found where something else was expected. -/
inductive Found where
  /-- The absent value. -/
  | null
  /-- A truth value. -/
  | boolean (value : Bool)
  /-- A number. -/
  | number (value : Number)
  /-- A text. -/
  | text (value : String)
  /-- A list. -/
  | sequence
  /-- An object. -/
  | map
deriving DecidableEq, Repr

/-- How a reader of the message is told what was found. -/
def Found.description : Found → String
  | .null => "null"
  | .boolean true => "boolean `true`"
  | .boolean false => "boolean `false`"
  | .number (.integer value) => "integer `" ++ toString value ++ "`"
  | .number (.real value) => "floating point `" ++ value.toText ++ "`"
  | .text value => "string " ++ Text.quoted value
  | .sequence => "sequence"
  | .map => "map"

/-- What a value is found to be. -/
def found : Json → Found
  | .null => .null
  | .boolean value => .boolean value
  | .number value => .number value
  | .text value => .text value
  | .array _ => .sequence
  | .object _ => .map

/-- What is wrong with a text or a value. -/
inductive Fault where
  /-- The text ends inside a list. -/
  | endInList
  /-- The text ends inside an object. -/
  | endInObject
  /-- The text ends inside a quoted text. -/
  | endInText
  /-- The text ends where a value is due. -/
  | endInValue
  /-- No colon follows the name of a field. -/
  | expectedColon
  /-- Neither a comma nor the closing bracket follows an item. -/
  | expectedListEnd
  /-- Neither a comma nor the closing brace follows a field. -/
  | expectedObjectEnd
  /-- A word that begins like `null`, `true` or `false` is none of them. -/
  | expectedWord
  /-- No value can begin with the character. -/
  | expectedValue
  /-- A backslash is followed by something that is no escape. -/
  | invalidEscape
  /-- A number is not written as one. -/
  | invalidNumber
  /-- A number is too large for a binary64 number. -/
  | numberOutOfRange
  /-- A control character stands inside a quoted text. -/
  | controlInText
  /-- The name of a field is not a quoted text. -/
  | nameNotText
  /-- Half of a surrogate pair stands where a character is due. -/
  | loneSurrogate
  /-- The first half of a surrogate pair is not followed by an escape. -/
  | unfinishedSurrogate
  /-- A comma stands before the closing bracket. -/
  | trailingComma
  /-- Something follows the value. -/
  | trailingCharacters
  /-- Lists and objects are nested too deeply. -/
  | tooDeep
  /-- A value of the wrong type. -/
  | invalidType (found : Found) (expected : String)
  /-- A value of the right type that is out of bounds. -/
  | invalidValue (found : Found) (expected : String)
  /-- A list with the wrong number of items. -/
  | invalidLength (length : Nat) (expected : String)
  /-- An object without a field that it must have. -/
  | missingField (name : String)
  /-- An object that gives a field twice. -/
  | duplicateField (name : String)
deriving DecidableEq, Repr

/-- The wording of a fault. -/
def Fault.message : Fault → String
  | .endInList => "EOF while parsing a list"
  | .endInObject => "EOF while parsing an object"
  | .endInText => "EOF while parsing a string"
  | .endInValue => "EOF while parsing a value"
  | .expectedColon => "expected `:`"
  | .expectedListEnd => "expected `,` or `]`"
  | .expectedObjectEnd => "expected `,` or `\x7d`"
  | .expectedWord => "expected ident"
  | .expectedValue => "expected value"
  | .invalidEscape => "invalid escape"
  | .invalidNumber => "invalid number"
  | .numberOutOfRange => "number out of range"
  | .controlInText => "control character (\\u0000-\\u001F) found while parsing a string"
  | .nameNotText => "key must be a string"
  | .loneSurrogate => "lone leading surrogate in hex escape"
  | .unfinishedSurrogate => "unexpected end of hex escape"
  | .trailingComma => "trailing comma"
  | .trailingCharacters => "trailing characters"
  | .tooDeep => "recursion limit exceeded"
  | .invalidType found expected =>
    "invalid type: " ++ found.description ++ ", expected " ++ expected
  | .invalidValue found expected =>
    "invalid value: " ++ found.description ++ ", expected " ++ expected
  | .invalidLength length expected =>
    "invalid length " ++ toString length ++ ", expected " ++ expected
  | .missingField name => "missing field `" ++ name ++ "`"
  | .duplicateField name => "duplicate field `" ++ name ++ "`"

/-- A fault at a place in a text. Lines are counted from one, and the column is the number of bytes
of the line up to the place. -/
structure Misread where
  /-- What is wrong. -/
  fault : Fault
  /-- The line of the place. -/
  line : Nat
  /-- The column of the place. -/
  column : Nat
deriving DecidableEq, Repr

/-- The wording of a fault at a place. -/
def Misread.message (misread : Misread) : String :=
  misread.fault.message ++ " at line " ++ toString misread.line ++
    " column " ++ toString misread.column

end CallTrace.Json
