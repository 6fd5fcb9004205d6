import CallTrace.Json.Basic
import CallTrace.Number.Shortest
import CallTrace.Text.Hexadecimal

/-!
# Structured data as text

Two written forms of a value: a compact one on a single line, and one with a line for every item and
an indentation of two blanks for every level. Texts keep every character but the quote, the
backslash and the controls below the space.
-/

namespace CallTrace.Json

/-- One character inside a written text. -/
def escapeCharacter (character : Char) : String :=
  match character.toNat with
  | 0x08 => "\\b"
  | 0x09 => "\\t"
  | 0x0A => "\\n"
  | 0x0C => "\\f"
  | 0x0D => "\\r"
  | 0x22 => "\\\""
  | 0x5C => "\\\\"
  | code =>
    if code < 0x10 then
      "\\u000" ++ Text.hexDigits code
    else if code < 0x20 then
      "\\u00" ++ Text.hexDigits code
    else
      String.singleton character

/-- A text between quotes. -/
def writeText (value : String) : String :=
  "\"" ++ String.join (value.toList.map escapeCharacter) ++ "\""

/-- A number in decimal notation. -/
def Number.toText : Number → String
  | .integer value => toString value
  | .real value => value.toText

mutual

/-- The compact form of a value. -/
def compact : Json → String
  | .null => "null"
  | .boolean true => "true"
  | .boolean false => "false"
  | .number value => value.toText
  | .text value => writeText value
  | .array items => "[" ++ String.intercalate "," (compactItems items) ++ "]"
  | .object fields => "\x7b" ++ String.intercalate "," (compactFields fields) ++ "\x7d"

/-- The compact forms of the items of a list. -/
def compactItems : List Json → List String
  | [] => []
  | item :: rest => compact item :: compactItems rest

/-- The compact forms of the fields of an object. -/
def compactFields : List (String × Json) → List String
  | [] => []
  | (name, value) :: rest => (writeText name ++ ":" ++ compact value) :: compactFields rest

end

/-- The blanks in front of a line at a level. -/
def indentation (level : Nat) : String :=
  String.ofList (List.replicate (2 * level) ' ')

/-- Written items, one on a line, between brackets of a level. Nothing stands between the brackets
of an empty list. -/
def bracketLines (level : Nat) (opening closing : String) : List String → String
  | [] => opening ++ closing
  | items =>
    let separator := "\n" ++ indentation (level + 1)
    opening ++ separator ++ String.intercalate ("," ++ separator) items ++
      "\n" ++ indentation level ++ closing

mutual

/-- The indented form of a value at a level. -/
def prettyAt (level : Nat) : Json → String
  | .array items => bracketLines level "[" "]" (prettyItems (level + 1) items)
  | .object fields => bracketLines level "\x7b" "\x7d" (prettyFields (level + 1) fields)
  | .null => "null"
  | .boolean true => "true"
  | .boolean false => "false"
  | .number value => value.toText
  | .text value => writeText value

/-- The indented forms of the items of a list. -/
def prettyItems (level : Nat) : List Json → List String
  | [] => []
  | item :: rest => prettyAt level item :: prettyItems level rest

/-- The indented forms of the fields of an object. -/
def prettyFields (level : Nat) : List (String × Json) → List String
  | [] => []
  | (name, value) :: rest =>
    (writeText name ++ ": " ++ prettyAt level value) :: prettyFields level rest

end

/-- The indented form of a value. -/
def pretty (value : Json) : String :=
  prettyAt 0 value

end CallTrace.Json
