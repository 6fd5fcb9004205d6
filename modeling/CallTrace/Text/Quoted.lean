import CallTrace.Text.Hexadecimal
import CallTrace.Text.PrintableTable

/-!
# Quoted texts

How a text is shown inside a message: between double quotes, with a backslash before a quote or a
backslash, short escapes for the usual controls, and the code point of every character that would
not be seen.
-/

namespace CallTrace.Text

/-- One character as it is shown between quotes. -/
def quoteCharacter (character : Char) : String :=
  match character.toNat with
  | 0x00 => "\\0"
  | 0x09 => "\\t"
  | 0x0A => "\\n"
  | 0x0D => "\\r"
  | 0x22 => "\\\""
  | 0x5C => "\\\\"
  | code =>
    if covers joiningTable character || covers invisibleTable character then
      "\\u\x7b" ++ hexDigits code ++ "\x7d"
    else
      String.singleton character

/-- The text between double quotes. -/
def quoted (text : String) : String :=
  "\"" ++ String.join (text.toList.map quoteCharacter) ++ "\""

end CallTrace.Text
