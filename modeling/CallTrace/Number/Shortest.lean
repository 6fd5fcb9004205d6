import CallTrace.Number.Binary64

/-!
# The shortest decimal of a binary64 number

The fewest decimal digits that read back as the number, and among those the ones nearest to it. A
decimal reads back as the number when it lies in the interval of reals that round to it, whose ends
belong to it when the significand is even.
-/

namespace CallTrace.Binary64

/-- The reals that round to a positive number, in quarters of a unit. -/
structure RoundingInterval where
  /-- Lower end. -/
  low : Nat
  /-- The number itself. -/
  middle : Nat
  /-- Upper end. -/
  high : Nat
  /-- Whether the two ends belong to the interval. -/
  closed : Bool
deriving Repr

/-- How many quarters of a unit make the value one. -/
def quartersInOne : Nat := 4 * unitsInOne

/-- The reals that round to a magnitude. Below a power of two the numbers lie twice as close. -/
def roundingInterval (magnitude : Nat) : RoundingInterval :=
  let step := Nat.pow 2 (scale magnitude)
  let middle := 4 * units magnitude
  let below := if significand magnitude = fractionCount && 1 < step then step else 2 * step
  ⟨middle - below, middle, middle + 2 * step, significand magnitude % 2 == 0⟩

/-- The point `count · 10 ^ exponent` and a number of quarters, brought to one common unit. -/
def commonUnits (count : Nat) (exponent : Int) (quarters : Nat) : Nat × Nat :=
  if 0 ≤ exponent then
    (count * Nat.pow 10 exponent.toNat * quartersInOne, quarters)
  else
    (count * quartersInOne, quarters * Nat.pow 10 (-exponent).toNat)

/-- Whether the decimal `count · 10 ^ exponent` lies in the interval. -/
def RoundingInterval.contains (interval : RoundingInterval) (count : Nat) (exponent : Int) : Bool :=
  let (point, low) := commonUnits count exponent interval.low
  let (_, high) := commonUnits count exponent interval.high
  if interval.closed then low ≤ point && point ≤ high else low < point && point < high

/-- The decimal exponent of the leading digit of a positive number of quarters. -/
def leadingExponent (quarters : Nat) : Int :=
  if quartersInOne ≤ quarters then
    ((Nat.toDigits 10 (quarters / quartersInOne)).length : Int) - 1
  else
    match (List.range 400).find? fun shift => quartersInOne ≤ quarters * Nat.pow 10 shift with
    | some shift => -(shift : Int)
    | none => 0

/-- The nearest decimal with the given least digit position, if one of the two around the number
reads back as it. Of two equally near ones the even one is taken. -/
def RoundingInterval.decimalAt? (interval : RoundingInterval) (exponent : Int) : Option Nat :=
  let (one, middle) := commonUnits 1 exponent interval.middle
  let below := middle / one
  let rest := middle % one
  let lower := interval.contains below exponent
  let upper := interval.contains (below + 1) exponent
  if lower && upper then
    some (if 2 * rest < one || (2 * rest == one && below % 2 == 0) then below else below + 1)
  else if lower then
    some below
  else if upper then
    some (below + 1)
  else
    none

/-- The shortest decimal `count · 10 ^ exponent` of a positive magnitude. Seventeen digits always
suffice. -/
def shortestDecimal (magnitude : Nat) : Nat × Int :=
  let interval := roundingInterval magnitude
  let leading := leadingExponent interval.middle
  let found := (List.range 17).findSome? fun (further : Nat) =>
    let exponent := leading - further
    (interval.decimalAt? exponent).map fun count => (count, exponent)
  found.getD (0, 0)

/-- Without the zeros at the end of the count. -/
def stripZeros (count : Nat) (exponent : Int) : Nat × Int :=
  if count ≠ 0 ∧ count % 10 = 0 then stripZeros (count / 10) (exponent + 1) else (count, exponent)
termination_by count
decreasing_by omega

/-- Copies of the digit zero. -/
def zeros (count : Nat) : String :=
  String.ofList (List.replicate count '0')

/-- The digits of a positive decimal as text. The point is placed plainly while the leading digit
stands between the fifth place after the point and the sixteenth before it; beyond that an exponent
with its sign follows the digits. -/
def decimalText (count : Nat) (exponent : Int) : String :=
  let digits := toString count
  let point : Int := digits.length + exponent
  if 0 ≤ exponent && point ≤ 16 then
    digits ++ zeros exponent.toNat ++ ".0"
  else if 0 < point && point ≤ 16 then
    let whole := point.toNat
    String.ofList (digits.toList.take whole) ++ "." ++ String.ofList (digits.toList.drop whole)
  else if -5 < point && point ≤ 0 then
    "0." ++ zeros (-point).toNat ++ digits
  else
    let fraction := digits.toList.drop 1
    let mantissa :=
      String.ofList (digits.toList.take 1) ++
        (if fraction.isEmpty then "" else "." ++ String.ofList fraction)
    let power := point - 1
    mantissa ++ "e" ++ (if power < 0 then "-" else "+") ++ toString power.natAbs

/-- The number as text: always with a point or an exponent, and with the sign of a zero. -/
def toText (number : Binary64) : String :=
  let text :=
    if number.magnitude = 0 then
      "0.0"
    else
      let (count, exponent) := shortestDecimal number.magnitude
      let (count, exponent) := stripZeros count exponent
      decimalText count exponent
  if number.negative then "-" ++ text else text

end CallTrace.Binary64
