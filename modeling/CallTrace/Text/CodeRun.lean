/-!
# Runs of code points

A property of characters is stored as a list of arithmetic progressions of code points, and a
character has the property when one of them covers it. Alternating scripts, where capital and
small letters follow each other, take one progression of stride two.
-/

namespace CallTrace.Text

/-- The code points `first`, `first + stride`, and so on up to `last`. -/
structure CodeRun where
  /-- Least code point of the run. -/
  first : Nat
  /-- Greatest code point of the run. -/
  last : Nat
  /-- Distance between neighbours. -/
  stride : Nat
deriving DecidableEq, Repr

/-- Whether a code point lies on the run. -/
def CodeRun.contains (run : CodeRun) (code : Nat) : Bool :=
  run.first ≤ code && code ≤ run.last && (code - run.first) % run.stride == 0

/-- Whether some run of the table covers the character. -/
def covers (table : List CodeRun) (character : Char) : Bool :=
  table.any fun run => run.contains character.toNat

end CallTrace.Text
