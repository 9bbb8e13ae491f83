import RecordValidation.Number.Binary64

/-!
# The text of a binary64 number

A finite number is written with the fewest significant digits that read back as the same number, and
of those with the digits nearest to it. With one digit, two digits and so on, the two neighbours of
the number on the decimal grid are tested against the interval of reals that round to it, in exact
arithmetic.

Numbers from `0.0001` up to below `10 ^ 16` are written positionally, always with a point and a
digit after it; others with a power of ten that has a sign and at least two digits.
-/

namespace RecordValidation.Binary64

/-- A positive fraction of natural numbers. -/
structure Fraction where
  numerator : Nat
  denominator : Nat

/-- `significand * 2 ^ exponent / 4`, so that the ends of rounding intervals stay whole. -/
def quarters (multiple : Nat) (exponent : Int) : Fraction :=
  if 0 ≤ exponent then ⟨multiple * Nat.pow 2 exponent.toNat, 4⟩
  else ⟨multiple, 4 * Nat.pow 2 (-exponent).toNat⟩

/-- The least place `k` with `10 ^ k` above the fraction, for fractions of at least one. -/
def wholePlaces (fraction : Fraction) : Nat :=
  (Nat.toDigits 10 (fraction.numerator / fraction.denominator)).length

/-- How often a fraction below one has to be multiplied by ten to reach one, counted up to
`limit`. -/
def leadingZeros (numerator denominator : Nat) : (limit : Nat) → Nat
  | 0 => 0
  | limit + 1 =>
    if denominator ≤ numerator then 0
    else leadingZeros (numerator * 10) denominator limit + 1

/-- The place of the first digit: the fraction is at least `10 ^ (place - 1)` and below
`10 ^ place`. -/
def place (fraction : Fraction) : Int :=
  if fraction.denominator ≤ fraction.numerator then wholePlaces fraction
  else 1 - leadingZeros fraction.numerator fraction.denominator 400

/-- The fraction divided by `10 ^ power`. -/
def Fraction.shift (fraction : Fraction) (power : Int) : Fraction :=
  if 0 ≤ power then ⟨fraction.numerator, fraction.denominator * Nat.pow 10 power.toNat⟩
  else ⟨fraction.numerator * Nat.pow 10 (-power).toNat, fraction.denominator⟩

/-- Whether a natural number lies between two fractions, the ends included if `closed`. -/
def lies (low high : Fraction) (closed : Bool) (n : Nat) : Bool :=
  let afterLow := compare low.numerator (n * low.denominator)
  let beforeHigh := compare (n * high.denominator) high.numerator
  (afterLow == .lt || (closed && afterLow == .eq))
    && (beforeHigh == .lt || (closed && beforeHigh == .eq))

/-- Decimal digits as a natural number, and the place of the first of them. -/
structure Decimal where
  digits : Nat
  place : Int

/-- The best decimal with `count` digits that still reads back as the number, if there is one. -/
def decimalWith? (significand : Nat) (exponent : Int) (count : Nat) : Option Decimal :=
  let exact := quarters (4 * significand) exponent
  let below := if significand = Nat.pow 2 52 ∧ minExponent < exponent then 1 else 2
  let first := place exact
  let power := first - count
  let value := exact.shift power
  let low := (quarters (4 * significand - below) exponent).shift power
  let high := (quarters (4 * significand + 2) exponent).shift power
  let closed := significand % 2 == 0
  let floor := value.numerator / value.denominator
  let nearest := roundQuotient value.numerator value.denominator
  let other := if nearest = floor then floor + 1 else floor
  if lies low high closed nearest then some ⟨nearest, power⟩
  else if lies low high closed other then some ⟨other, power⟩
  else none

/-- The shortest decimal that reads back as a positive number. -/
def shortest (significand : Nat) (exponent : Int) : Decimal :=
  ((List.range 17).findSome? fun count => decimalWith? significand exponent (count + 1)).getD ⟨0, 0⟩

/-- The text of digits whose last one stands at `10 ^ power`. -/
def layOut (decimal : Decimal) : List Char :=
  let all := Nat.toDigits 10 decimal.digits
  let digits := (all.reverse.dropWhile (· == '0')).reverse
  let point : Int := decimal.place + all.length
  if -4 < point ∧ point ≤ 16 then
    if point ≤ 0 then '0' :: '.' :: List.replicate (-point).toNat '0' ++ digits
    else
      let whole := point.toNat
      if digits.length ≤ whole then
        digits ++ List.replicate (whole - digits.length) '0' ++ ['.', '0']
      else digits.take whole ++ '.' :: digits.drop whole
  else
    let power := point - 1
    let magnitude := Nat.toDigits 10 power.natAbs
    let tail := (if power < 0 then '-' else '+')
      :: List.replicate (2 - magnitude.length) '0' ++ magnitude
    match digits with
    | [] => []
    | [digit] => digit :: 'e' :: tail
    | digit :: rest => digit :: '.' :: rest ++ 'e' :: tail

/-- The text of a number. -/
def text : Binary64 → String
  | .nan => "nan"
  | .infinite negative => if negative then "-inf" else "inf"
  | .finite negative significand exponent =>
    let magnitude :=
      if significand = 0 then ['0', '.', '0'] else layOut (shortest significand exponent)
    String.ofList (if negative then '-' :: magnitude else magnitude)

end RecordValidation.Binary64
