/-!
# Decimal integers

Integers written in decimal digits. A plus sign may stand first, a minus sign only where negative
numbers are meant, and nothing else is accepted: no blank, no separator, no empty digit list.
-/

namespace CallTrace.Text

/-- The value of a nonempty list of decimal digits. -/
def digitsValue? (digits : List Char) : Option Nat :=
  if digits.isEmpty || !digits.all Char.isDigit then
    none
  else
    some (digits.foldl (fun value digit => value * 10 + (digit.toNat - '0'.toNat)) 0)

/-- The natural number that the text writes, if it is at most `limit`. -/
def natural? (limit : Nat) (text : String) : Option Nat :=
  let digits :=
    match text.toList with
    | '+' :: digits => digits
    | digits => digits
  (digitsValue? digits).filter (· ≤ limit)

/-- The 64-bit signed integer that the text writes. -/
def integer? (text : String) : Option Int64 :=
  match text.toList with
  | '-' :: digits => do
    let value ← digitsValue? digits
    if value ≤ Nat.pow 2 63 then some (Int64.ofInt (-(value : Int))) else none
  | '+' :: digits => (digitsValue? digits).bind bounded
  | digits => (digitsValue? digits).bind bounded
where
  /-- A natural number that fits below the greatest 64-bit signed integer. -/
  bounded (value : Nat) : Option Int64 :=
    if value < Nat.pow 2 63 then some (Int64.ofNat value) else none

/-- The greatest 32-bit count. -/
def maxCount32 : Nat := Nat.pow 2 32 - 1

/-- The greatest 64-bit count. -/
def maxCount64 : Nat := Nat.pow 2 64 - 1

end CallTrace.Text
