import RecordValidation.Number.Quantity

/-!
# Binary64 numbers

A finite number is a sign, a significand below `2 ^ 53` and an exponent from `-1074` on; the
significand has its full 53 bits unless the exponent is the least one. Every ratio has a nearest
number, a tie going to the even significand; what would need an exponent above `971` is infinite.
-/

namespace RecordValidation

/-- A number of the binary64 format. -/
inductive Binary64
  | nan
  | infinite (negative : Bool)
  /-- `significand * 2 ^ exponent`, negated if `negative`. -/
  | finite (negative : Bool) (significand : Nat) (exponent : Int)
  deriving DecidableEq

namespace Binary64

/-- The least exponent of a finite number. -/
def minExponent : Int := -1074

/-- The greatest exponent of a finite number. -/
def maxExponent : Int := 971

/-- The nearest natural number to a quotient, a tie going to the even neighbour. -/
def roundQuotient (numerator denominator : Nat) : Nat :=
  let quotient := numerator / denominator
  let twice := 2 * (numerator % denominator)
  if twice < denominator then quotient
  else if denominator < twice then quotient + 1
  else quotient + quotient % 2

/-- The quotient divided by `2 ^ exponent`, again as numerator and denominator. -/
def scale (numerator denominator : Nat) (exponent : Int) : Nat × Nat :=
  if 0 ≤ exponent then (numerator, denominator * Nat.pow 2 exponent.toNat)
  else (numerator * Nat.pow 2 (-exponent).toNat, denominator)

/-- The exponent at which the quotient of two positive numbers has 53 bits before the point, or the
least exponent if that is greater. -/
def exponentFor (numerator denominator : Nat) : Int :=
  let guess : Int := (numerator.log2 : Int) - (denominator.log2 : Int) - 52
  let (p, q) := scale numerator denominator guess
  max minExponent (if p / q < Nat.pow 2 52 then guess - 1 else guess)

/-- The number nearest to a quotient of natural numbers, with a sign. -/
def ofRatio (negative : Bool) (numerator denominator : Nat) : Binary64 :=
  if numerator = 0 then .finite negative 0 minExponent
  else
    let exponent := exponentFor numerator denominator
    let (p, q) := scale numerator denominator exponent
    let rounded := roundQuotient p q
    let (significand, exponent) :=
      if rounded = Nat.pow 2 53 then (Nat.pow 2 52, exponent + 1) else (rounded, exponent)
    if maxExponent < exponent then .infinite negative else .finite negative significand exponent

/-- The number nearest to an integer, unless it is too large for a finite one. -/
def ofInt? (n : Int) : Option Binary64 :=
  match ofRatio (n < 0) n.natAbs 1 with
  | .infinite _ => none
  | number => some number

/-- The exact quantity of a number. -/
def quantity : Binary64 → Quantity
  | .nan => .unordered
  | .infinite negative => .infinite negative
  | .finite negative significand exponent =>
    .dyadic (if negative then -significand else significand) exponent

/-- The integer a number equals, if there is one. -/
def toInt? : Binary64 → Option Int
  | .finite negative significand exponent =>
    let magnitude? : Option Nat :=
      if 0 ≤ exponent then some (significand * Nat.pow 2 exponent.toNat)
      else if significand % Nat.pow 2 (-exponent).toNat = 0 then
        some (significand / Nat.pow 2 (-exponent).toNat)
      else none
    magnitude?.map fun magnitude => if negative then -magnitude else magnitude
  | _ => none

/-- Whether a number is finite and has no fractional part. -/
def isIntegral (number : Binary64) : Bool := number.toInt?.isSome

example : ofInt? 3 = some (.finite false (3 * 2 ^ 51) (-51)) := by decide +kernel
example : ofInt? (2 ^ 53 + 1) = some (.finite false (2 ^ 52) 1) := by decide +kernel
example : ofInt? (10 ^ 400) = none := by decide +kernel

end Binary64

end RecordValidation
