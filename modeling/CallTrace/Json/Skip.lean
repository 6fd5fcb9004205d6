import CallTrace.Json.Numeral
import CallTrace.Json.Quotation

/-!
# Values that nobody asked for

A value can be taken off a text without being built. Its form is checked, but numbers may be of any
size, surrogates need no partner, and lists and objects may be nested to any depth.
-/

namespace CallTrace.Json

/-- What encloses the place that is scanned. -/
inductive Enclosure where
  /-- A list. -/
  | list
  /-- An object. -/
  | object
deriving DecidableEq, Repr

namespace Enclosure

/-- The bracket that ends it. -/
def closing : Enclosure → Char
  | .list => ']'
  | .object => '}'

/-- What is wrong when the text ends inside it. -/
def endFault : Enclosure → Fault
  | .list => .endInList
  | .object => .endInObject

/-- What is wrong when neither a comma nor its closing bracket follows. -/
def followFault : Enclosure → Fault
  | .list => .expectedListEnd
  | .object => .expectedObjectEnd

end Enclosure

namespace Scan

/-- Take an exponent off, whatever its size. -/
def skipExponent : Scan Unit := do
  advance
  let _ ← exponentSign
  if (← digits).isEmpty then
    failNext .invalidNumber

/-- Take a number off whose sign has been taken off. -/
def skipNumeral : Scan Unit := do
  if (← peek) == some '0' then
    advance
    if (← peek).any Char.isDigit then
      failNext .invalidNumber
  else if (← digits).isEmpty then
    failNext .invalidNumber
  if (← peek) == some '.' then
    advance
    if (← digits).isEmpty then
      failNext .invalidNumber
  if isExponentMark (← peek) then
    skipExponent

/-- Take off a value that is neither a list nor an object and begins with the given character. -/
def skipScalar (first : Char) : Scan Unit := do
  match first with
  | 'n' =>
    advance
    word ['u', 'l', 'l']
  | 't' =>
    advance
    word ['r', 'u', 'e']
  | 'f' =>
    advance
    word ['a', 'l', 's', 'e']
  | '"' =>
    advance
    skipQuotation
  | '-' =>
    advance
    skipNumeral
  | _ => if first.isDigit then skipNumeral else failNext .expectedValue

/-- Take off the colon between the name and the value of a field. -/
def colon : Scan Unit := do
  match ← peekSign with
  | some ':' => advance
  | some _ => failNext .expectedColon
  | none => failHere .endInObject

/-- Take off the name of a field, and its colon; before an item of a list there is nothing. -/
def skipName : Enclosure → Scan Unit
  | .list => pure ()
  | .object => do
    match ← peekSign with
    | some '"' =>
      advance
      skipQuotation
      colon
    | some _ => failNext .nameNotText
    | none => failHere .endInObject

mutual

/-- Take off the value that is due and everything up to the end of the outermost enclosure. The
innermost enclosure comes first. -/
def skipDue (enclosures : List Enclosure) : Nat → Scan Unit
  | 0 => failHere .endInValue
  | fuel + 1 => do
    match ← peekSign with
    | none => failHere .endInValue
    | some '[' =>
      advance
      skipInside false .list enclosures fuel
    | some '{' =>
      advance
      skipInside false .object enclosures fuel
    | some first =>
      skipScalar first
      match enclosures with
      | [] => pure ()
      | innermost :: outer => skipInside true innermost outer fuel

/-- Go on inside an enclosure, where a comma may stand unless the enclosure has just begun. -/
def skipInside (commaAllowed : Bool) (innermost : Enclosure) (outer : List Enclosure) :
    Nat → Scan Unit
  | 0 => failHere innermost.endFault
  | fuel + 1 => do
    match ← peekSign with
    | none => failHere innermost.endFault
    | some sign =>
      if commaAllowed && sign == ',' then
        advance
        skipName innermost
        skipDue (innermost :: outer) fuel
      else if sign == innermost.closing then
        advance
        match outer with
        | [] => pure ()
        | next :: further => skipInside true next further fuel
      else if commaAllowed then
        failNext innermost.followFault
      else
        skipName innermost
        skipDue (innermost :: outer) fuel

end

/-- Take a value off. Every step takes a character off or goes over to the value that is due, so
twice as many steps as the text has characters are enough. -/
def skipValue : Scan Unit := do
  skipDue [] (2 * (← get).size + 1)

end Scan

end CallTrace.Json
