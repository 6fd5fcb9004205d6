import CallTrace.Json.Cursor
import CallTrace.Number.Decimal

/-!
# Numbers in a text

A number is a digit list without leading zeros, then perhaps a point with digits, then perhaps an
exponent. As many leading digits as fit into 64 bits make the significand. The digits of the whole
part that do not fit only raise the exponent, those after the point are dropped.
-/

namespace CallTrace.Json

/-- The value of a decimal digit. -/
def digitValue (digit : Char) : Nat :=
  digit.toNat - '0'.toNat

/-- Append digits to a number while it stays within a limit. Yields the number and the digits that
were left over. -/
def appendDigits (limit value : Nat) : List Char → Nat × List Char
  | [] => (value, [])
  | digit :: rest =>
    if value * 10 + digitValue digit ≤ limit then
      appendDigits limit (value * 10 + digitValue digit) rest
    else
      (value, digit :: rest)

/-- The greatest significand. -/
def significandLimit : Nat := Nat.pow 2 64 - 1

/-- The greatest exponent that is read exactly. -/
def exponentLimit : Nat := Nat.pow 2 31 - 1

namespace Scan

/-- Whether a character marks an exponent. -/
def isExponentMark (character : Option Char) : Bool :=
  character == some 'e' || character == some 'E'

/-- The binary64 number of a significand and an exponent that were read. -/
def realOf (negative : Bool) (significand : Nat) (exponent : Int) : Scan Number := do
  match Binary64.ofDecimal? negative significand exponent with
  | some value => return .real value
  | none => failHere .numberOutOfRange

/-- The sign of an exponent, of which a plus sign may be left out. Yields whether it is a minus
sign. -/
def exponentSign : Scan Bool := do
  match ← peek with
  | some '+' =>
    advance
    return false
  | some '-' =>
    advance
    return true
  | _ => return false

/-- The exponent after its mark, and the number that it completes. An exponent beyond the limit
makes every significand but zero too large, or else zero. -/
def exponentPart (negative : Bool) (significand : Nat) (exponent : Int) : Scan Number := do
  advance
  let negativeExponent ← exponentSign
  match ← peek with
  | none => failHere .endInValue
  | some first =>
    if !first.isDigit then
      failNext .invalidNumber
    let begun ← get
    let taken ← digits
    let (value, unread) := appendDigits exponentLimit 0 taken
    if unread.isEmpty then
      realOf negative significand (if negativeExponent then exponent - value else exponent + value)
    else if significand ≠ 0 && !negativeExponent then
      throw ((begun.skip (taken.length - unread.length + 1)).stopHere .numberOutOfRange)
    else
      return .real ⟨negative, 0⟩

/-- The digits after a point, and the number that they complete. -/
def fractionPart (negative : Bool) (significand : Nat) (exponent : Int) : Scan Number := do
  advance
  let taken ← digits
  if taken.isEmpty then
    match ← peek with
    | none => failHere .endInValue
    | some _ => failNext .invalidNumber
  let (significand, unread) := appendDigits significandLimit significand taken
  let exponent := exponent - (taken.length - unread.length : Nat)
  if isExponentMark (← peek) then
    exponentPart negative significand exponent
  else
    realOf negative significand exponent

/-- The number whose whole part fits into 64 bits. A negative one stays whole while it fits into 64
bits with its sign; the zero with a minus sign is a binary64 number. -/
def wholeNumber (negative : Bool) (significand : Nat) : Scan Number := do
  if !negative then
    return .integer significand
  else if 0 < significand && significand ≤ Nat.pow 2 63 then
    return .integer (-(significand : Int))
  else
    realOf true significand 0

/-- A number whose sign has been taken off. -/
def numeral (negative : Bool) : Scan Number := do
  match ← peek with
  | none => failHere .endInValue
  | some first =>
    if !first.isDigit then
      failNext .invalidNumber
    let taken ← if first = '0' then advance *> pure ['0'] else digits
    let following ← peek
    if first = '0' && following.any Char.isDigit then
      failNext .invalidNumber
    let (significand, unread) := appendDigits significandLimit 0 taken
    if following == some '.' then
      fractionPart negative significand unread.length
    else if isExponentMark following then
      exponentPart negative significand unread.length
    else if unread.isEmpty then
      wholeNumber negative significand
    else
      realOf negative significand unread.length

end Scan

end CallTrace.Json
