import CallTrace.Text.Hexadecimal

/-!
# Percent escapes

A percent sign before two hexadecimal digits stands for a byte, and every other character for the
bytes that encode it. What follows a byte that is zero does not count. Bytes that encode no text
still have a text of their own, so that different bytes have different texts.
-/

namespace CallTrace.Text

/-- The bytes that some characters stand for. -/
def unescape : List Char → List UInt8
  | [] => []
  | '%' :: high :: low :: rest =>
    match hexValue? high, hexValue? low with
    | some high, some low => (high * 16 + low).toUInt8 :: unescape rest
    | _, _ => '%'.toNat.toUInt8 :: unescape (high :: low :: rest)
  | character :: rest => String.utf8EncodeChar character ++ unescape rest
termination_by characters => characters.length

/-- The character that some bytes begin with, as a text, and how many bytes encode it. -/
def leadingCharacter? (bytes : List UInt8) : Option (String × Nat) :=
  [1, 2, 3, 4].findSome? fun count =>
    (String.fromUTF8? ⟨(bytes.take count).toArray⟩).map fun text => (text, count)

/-- The text of some bytes, none of which is zero. A byte that belongs to no character is written in
hexadecimal digits after the character with code zero, which no byte encodes. -/
def ofBytes : List UInt8 → String
  | [] => ""
  | byte :: rest =>
    match leadingCharacter? (byte :: rest) with
    | some (text, count) => text ++ ofBytes (rest.drop (count - 1))
    | none => "\x00" ++ hexDigits byte.toNat ++ ofBytes rest
termination_by bytes => bytes.length
decreasing_by all_goals simp only [List.length_cons, List.length_drop]; omega

/-- The text that some characters with escapes stand for, up to a byte that is zero. -/
def decodePercent (characters : List Char) : String :=
  ofBytes ((unescape characters).takeWhile (· ≠ 0))

end CallTrace.Text
