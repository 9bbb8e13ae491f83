import RecordValidation.Fault

/-!
# Bounds

Lengths and numbers are checked against bounds that a declaration gives as values. An absent bound
is no bound; anything but a number or a truth value cannot be compared with.
-/

namespace RecordValidation

namespace Quantity

/-- Whether a quantity fails a comparison with a bound. -/
def violates (fails : Quantity → Quantity → Bool) (quantity : Quantity) (bound : Value) :
    Outcome Bool :=
  match bound, bound.quantity? with
  | .null, _ => .ok false
  | _, some limit => .ok (fails quantity limit)
  | _, none => .error .unsupported

/-- Whether a quantity is below a lower bound. -/
def isUnder (quantity : Quantity) (bound : Value) : Outcome Bool := violates isBelow quantity bound

/-- Whether a quantity is above an upper bound. -/
def isOver (quantity : Quantity) (bound : Value) : Outcome Bool := violates isAbove quantity bound

end Quantity

end RecordValidation
