/-!
# Hexadecimal digits

Numbers are written in lower-case digits; digits of both cases are read.
-/

namespace CallTrace.Text

/-- The lower-case hexadecimal digits of a number, without leading zeros. -/
def hexDigits (value : Nat) : String :=
  String.ofList (Nat.toDigits 16 value)

/-- The value of a hexadecimal digit. -/
def hexValue? (character : Char) : Option Nat :=
  if character.isDigit then
    some (character.toNat - '0'.toNat)
  else if 'a' ≤ character && character ≤ 'f' then
    some (character.toNat - 'a'.toNat + 10)
  else if 'A' ≤ character && character ≤ 'F' then
    some (character.toNat - 'A'.toNat + 10)
  else
    none

end CallTrace.Text
