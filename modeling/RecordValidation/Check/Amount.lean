import RecordValidation.Check.Bound
import RecordValidation.Check.Complaint
import RecordValidation.Number.Numeral

/-!
# Checks on numbers

A value counts as a number if it is one or if it is a text that looks like one; truth values do not
count. Where only integers are allowed, numbers with a fraction and texts with a point or a power of
ten are out. The number is compared with a lower and then with an upper bound. One that cannot be
ordered is neither below nor above any bound.
-/

namespace RecordValidation

/-- Settings of a check on a number. -/
abbrev NumberSettings := NumberSettingsOf Value

namespace NumberSettings

/-- Whether a text looks like a number that is allowed. -/
def accepts (settings : NumberSettings) (s : String) : Bool :=
  if settings.integerOnly.truthy then Numeral.isIntegerText s.toList
  else Numeral.isNumberText s.toList

/-- The quantity of a text that looks like a number. A text may look like one and still not be
convertible, because the two disagree about some blanks. -/
def quantityOfText (s : String) : Outcome Quantity :=
  match Numeral.readBinary64? s with
  | some number => .ok number.quantity
  | none => .error .badValue

/-- The quantity of a value that counts as a number. -/
def amount? (settings : NumberSettings) (value : Value) : Outcome (Option Quantity) :=
  match value with
  | .int n => .ok (some (Quantity.ofInt n))
  | .float number =>
    .ok (if settings.integerOnly.truthy && !number.isIntegral then none else some number.quantity)
  | .text s => if settings.accepts s then some <$> quantityOfText s else .ok none
  | _ => .ok none

/-- The template of the complaint that a value is no number. -/
def template (settings : NumberSettings) : String :=
  if settings.integerOnly.truthy then "\x7battribute\x7d must be an integer."
  else "\x7battribute\x7d must be a number."

/-- The complaint about a quantity, if there is one. -/
def complaintOnQuantity (settings : NumberSettings) (quantity : Quantity) :
    Outcome (Option Complaint) := do
  if ← quantity.isUnder settings.least then
    return some ⟨settings.tooSmall, [("min", settings.least)]⟩
  if ← quantity.isOver settings.most then
    return some ⟨settings.tooBig, [("max", settings.most)]⟩
  return none

/-- The complaint about a value, if there is one; `message` replaces the one about a value that is
no number. -/
def complaint? (settings : NumberSettings) (message value : Value) :
    Outcome (Option Complaint) := do
  match ← settings.amount? value with
  | some quantity => settings.complaintOnQuantity quantity
  | none => return some ⟨message.orDefault settings.template, []⟩

end NumberSettings

end RecordValidation
