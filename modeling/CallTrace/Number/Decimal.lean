import CallTrace.Number.Binary64

/-!
# Decimal notation to binary64

A decimal `significand · 10 ^ exponent` is turned into a binary64 number in two or more roundings:
the significand is rounded first, then multiplied or divided by a rounded power of ten. The result
may therefore lie one step beside the number nearest to the decimal.
-/

namespace CallTrace.Binary64

/-- The greatest power of ten that is used in one step. -/
def maxTenExponent : Nat := 308

/-- The magnitude nearest to a power of ten. -/
def powerOfTen? (exponent : Nat) : Option Nat :=
  roundMagnitude? (Nat.pow 10 exponent) 1

/-- Divide a magnitude by `10 ^ 308` a number of times, or until nothing is left of it. -/
def divideByGreatestTenPower? (magnitude : Nat) : Nat → Option Nat
  | 0 => some magnitude
  | times + 1 =>
    if magnitude = 0 then
      some 0
    else
      ((powerOfTen? maxTenExponent).bind (divideMagnitude? magnitude)).bind fun quotient =>
        divideByGreatestTenPower? quotient times

/-- Divide a magnitude by a power of ten, by at most `10 ^ 308` in one step. -/
def divideByTenPower? (magnitude exponent : Nat) : Option Nat :=
  let times := (exponent - 1) / maxTenExponent
  (divideByGreatestTenPower? magnitude times).bind fun rest =>
    (powerOfTen? (exponent - times * maxTenExponent)).bind (divideMagnitude? rest)

/-- Multiply a magnitude by a power of ten; `none` when the result is beyond the format. -/
def multiplyByTenPower? (magnitude exponent : Nat) : Option Nat :=
  if exponent ≤ maxTenExponent then
    (powerOfTen? exponent).bind (multiplyMagnitude? magnitude)
  else if magnitude = 0 then
    some 0
  else
    none

/-- The number that `significand · 10 ^ exponent` is read as, or `none` when it is too large. -/
def ofDecimal? (negative : Bool) (significand : Nat) (exponent : Int) : Option Binary64 := do
  let rounded ← roundMagnitude? significand 1
  let magnitude ←
    if 0 ≤ exponent then
      multiplyByTenPower? rounded exponent.toNat
    else
      divideByTenPower? rounded (-exponent).toNat
  return ⟨negative, magnitude⟩

end CallTrace.Binary64
