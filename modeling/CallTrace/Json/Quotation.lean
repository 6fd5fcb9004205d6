import CallTrace.Json.Cursor
import CallTrace.Text.Hexadecimal

/-!
# Quoted texts in a text

A quoted text runs to the next quote that no backslash precedes. Controls below the space must be
escaped. An escape is a letter, or four hexadecimal digits; two of the latter stand for one
character when they form a surrogate pair.
-/

namespace CallTrace.Json

/-- The four hexadecimal digits that a text begins with, as a number. The fault of a wrong digit is
noticed after four bytes, that of a short text at its end. -/
def hexUnit (offset : Nat) (rest : List Char) : Except Stop Nat :=
  let digits := rest.take 4
  if byteCount digits < 4 then
    .error ⟨.endInText, offset + byteCount digits⟩
  else
    match digits.mapM Text.hexValue? with
    | some values => .ok (values.foldl (fun unit value => unit * 16 + value) 0)
    | none => .error ⟨.invalidEscape, offset + 4⟩

/-- Whether a number is the first half of a surrogate pair. -/
def isHighSurrogate (unit : Nat) : Bool :=
  0xD800 ≤ unit && unit ≤ 0xDBFF

/-- Whether a number is the second half of a surrogate pair. -/
def isLowSurrogate (unit : Nat) : Bool :=
  0xDC00 ≤ unit && unit ≤ 0xDFFF

/-- The second half of a surrogate pair, which must be written as an escape of its own. -/
def lowSurrogate (offset : Nat) : List Char → Except Stop Nat
  | [] => .error ⟨.endInText, offset⟩
  | '\\' :: [] => .error ⟨.endInText, offset + 1⟩
  | '\\' :: 'u' :: rest => do
    let unit ← hexUnit (offset + 2) rest
    if isLowSurrogate unit then return unit else throw ⟨.loneSurrogate, offset + 6⟩
  | '\\' :: _ :: _ => .error ⟨.unfinishedSurrogate, offset + 2⟩
  | _ :: _ => .error ⟨.unfinishedSurrogate, offset + 1⟩

/-- The character of a hexadecimal escape, and how many characters write it after the letter `u`. -/
def unicodeEscape (offset : Nat) (rest : List Char) : Except Stop (Char × Nat) := do
  let unit ← hexUnit offset rest
  if isLowSurrogate unit then
    throw ⟨.loneSurrogate, offset + 4⟩
  else if isHighSurrogate unit then
    let low ← lowSurrogate (offset + 4) (rest.drop 4)
    return (Char.ofNat (0x10000 + (unit - 0xD800) * 0x400 + (low - 0xDC00)), 10)
  else
    return (Char.ofNat unit, 4)

/-- The character of an escape of one letter. -/
def letterEscape? : Char → Option Char
  | '"' => some '"'
  | '\\' => some '\\'
  | '/' => some '/'
  | 'b' => some (Char.ofNat 0x08)
  | 'f' => some (Char.ofNat 0x0C)
  | 'n' => some '\n'
  | 'r' => some '\r'
  | 't' => some '\t'
  | _ => none

/-- The character of an escape, and how many characters write it after the backslash. -/
def escape (offset : Nat) : List Char → Except Stop (Char × Nat)
  | [] => .error ⟨.endInText, offset⟩
  | 'u' :: rest => do
    let (character, count) ← unicodeEscape (offset + 1) rest
    return (character, count + 1)
  | letter :: _ =>
    match letterEscape? letter with
    | some character => .ok (character, 1)
    | none => .error ⟨.invalidEscape, offset + 1⟩

/-- How many characters write an escape after the backslash, when its value does not matter:
surrogates need no partner then. -/
def escapeLength (offset : Nat) : List Char → Except Stop Nat
  | [] => .error ⟨.endInText, offset⟩
  | 'u' :: rest => do
    let _ ← hexUnit (offset + 1) rest
    return 5
  | letter :: _ =>
    if (letterEscape? letter).isSome then .ok 1 else .error ⟨.invalidEscape, offset + 1⟩

/-- Read up to the closing quote. The characters read so far are given last first. The result is the
text, the number of bytes up to its end, and what follows it. -/
def readQuoted (offset : Nat) (read : List Char) (rest : List Char) :
    Except Stop (String × Nat × List Char) :=
  match rest with
  | [] => .error ⟨.endInText, offset⟩
  | '"' :: rest => .ok (String.ofList read.reverse, offset + 1, rest)
  | '\\' :: rest =>
    match escape (offset + 1) rest with
    | .error stop => .error stop
    | .ok (character, count) =>
      readQuoted (offset + 1 + count) (character :: read) (rest.drop count)
  | character :: rest =>
    if character.toNat < 0x20 then
      .error ⟨.controlInText, offset + 1⟩
    else
      readQuoted (offset + character.utf8Size) (character :: read) rest
termination_by rest.length
decreasing_by all_goals simp only [List.length_cons, List.length_drop]; omega

/-- Skip up to the closing quote. The result is the number of bytes up to the end, and what follows
it. -/
def skipQuoted (offset : Nat) (rest : List Char) : Except Stop (Nat × List Char) :=
  match rest with
  | [] => .error ⟨.endInText, offset⟩
  | '"' :: rest => .ok (offset + 1, rest)
  | '\\' :: rest =>
    match escapeLength (offset + 1) rest with
    | .error stop => .error stop
    | .ok count => skipQuoted (offset + 1 + count) (rest.drop count)
  | character :: rest =>
    if character.toNat < 0x20 then
      .error ⟨.controlInText, offset⟩
    else
      skipQuoted (offset + character.utf8Size) rest
termination_by rest.length
decreasing_by all_goals simp only [List.length_cons, List.length_drop]; omega

namespace Scan

/-- A quoted text whose opening quote has been taken off. -/
def quotation : Scan String := do
  let cursor ← get
  let (value, offset, rest) ← readQuoted cursor.offset [] cursor.rest
  set (cursor.move offset rest)
  return value

/-- Take a quoted text off whose opening quote has been taken off. -/
def skipQuotation : Scan Unit := do
  let cursor ← get
  let (offset, rest) ← skipQuoted cursor.offset cursor.rest
  set (cursor.move offset rest)

end Scan

end CallTrace.Json
