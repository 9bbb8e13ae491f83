/-!
# Exact quantities

A quantity is what a number stands for when numbers are compared: an integer times a power of two,
an infinity, or nothing that can be ordered. Comparisons are exact, so that a large integer and a
binary fraction are never confused by rounding.
-/

namespace RecordValidation

/-- What a number stands for in a comparison. -/
inductive Quantity
  /-- Not ordered against anything. -/
  | unordered
  /-- Beyond every finite number on one side. -/
  | infinite (negative : Bool)
  /-- `multiple * 2 ^ exponent`. -/
  | dyadic (multiple exponent : Int)
  deriving DecidableEq

namespace Quantity

/-- The quantity of an integer. -/
def ofInt (n : Int) : Quantity := .dyadic n 0

/-- Order of `m * 2 ^ d` and `n * 2 ^ e`, both brought to the smaller exponent. -/
def compareDyadic (m d n e : Int) : Ordering :=
  compare (m * Int.pow 2 (d - min d e).toNat) (n * Int.pow 2 (e - min d e).toNat)

/-- The order of two quantities, if they have one. -/
def compare? : Quantity → Quantity → Option Ordering
  | .unordered, _ | _, .unordered => none
  | .infinite true, .infinite true | .infinite false, .infinite false => some .eq
  | .infinite true, _ | _, .infinite false => some .lt
  | .infinite false, _ | _, .infinite true => some .gt
  | .dyadic m d, .dyadic n e => some (compareDyadic m d n e)

/-- Strictly below; false when the two cannot be ordered. -/
def isBelow (a b : Quantity) : Bool := compare? a b == some .lt

/-- Strictly above; false when the two cannot be ordered. -/
def isAbove (a b : Quantity) : Bool := compare? a b == some .gt

end Quantity

end RecordValidation
