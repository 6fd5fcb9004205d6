/-!
# Finite binary64 numbers

A finite binary64 number is kept as its sign and the 63 bits of its magnitude, and every computation
on it is exact arithmetic on natural numbers followed by one rounding. The unit of a magnitude is
`2 ^ (-1074)`, the least positive value of the format, so every magnitude is a whole number of
units.
-/

namespace CallTrace

/-- A finite binary64 number. -/
structure Binary64 where
  /-- Whether the sign bit is set. -/
  negative : Bool
  /-- Exponent and fraction fields, read as one number. -/
  magnitude : Nat
deriving DecidableEq, Repr

namespace Binary64

/-- The number of values of the fraction field. -/
def fractionCount : Nat := Nat.pow 2 52

/-- How many units of `2 ^ (-1074)` make the value one. -/
def unitsInOne : Nat := Nat.pow 2 1074

/-- The first magnitude that stands for no finite number. -/
def infinity : Nat := 2047 * fractionCount

/-- One. -/
def one : Binary64 := ⟨false, 1023 * fractionCount⟩

/-- The exponent of two by which the significand of a magnitude is scaled, in units. -/
def scale (magnitude : Nat) : Nat :=
  magnitude / fractionCount - 1

/-- The significand of a magnitude, with the leading one that the format leaves out. -/
def significand (magnitude : Nat) : Nat :=
  if magnitude < fractionCount then magnitude else fractionCount + magnitude % fractionCount

/-- The value of a magnitude in units. -/
def units (magnitude : Nat) : Nat :=
  significand magnitude * Nat.pow 2 (scale magnitude)

/-- The whole number nearest to a quotient; a tie goes to the even one. -/
def roundQuotient (numerator denominator : Nat) : Nat :=
  let quotient := numerator / denominator
  let twice := 2 * (numerator % denominator)
  if denominator < twice || (twice == denominator && quotient % 2 == 1) then
    quotient + 1
  else
    quotient

/-- The magnitude nearest to a quotient of natural numbers, a tie going to the even significand.
It is `none` when the quotient lies beyond the greatest finite number. Since the fraction field
follows the exponent field, a significand that rounds up to the next power of two carries into the
exponent by plain addition. -/
def roundMagnitude? (numerator denominator : Nat) : Option Nat :=
  let scaled := numerator * unitsInOne
  let shift := (scaled / denominator).log2 + 1 - 53
  let magnitude := shift * fractionCount + roundQuotient scaled (denominator * Nat.pow 2 shift)
  if magnitude < infinity then some magnitude else none

/-- The product of two magnitudes, rounded. -/
def multiplyMagnitude? (left right : Nat) : Option Nat :=
  roundMagnitude? (units left * units right) (unitsInOne * unitsInOne)

/-- The quotient of two magnitudes, rounded. -/
def divideMagnitude? (left right : Nat) : Option Nat :=
  roundMagnitude? (units left) (units right)

end Binary64

end CallTrace
