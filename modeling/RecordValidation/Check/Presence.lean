import RecordValidation.Check.Complaint
import RecordValidation.Text.Blank
import RecordValidation.Value.Agreement

/-!
# Checks for presence and for a choice of two

A required value is not empty, where a text of blanks alone is empty too; in the strict form it only
has to be there. It may also be required to agree with one wanted value. A choice of two is met by a
value that agrees with either; loosely, truth values are the numbers one and zero.
-/

namespace RecordValidation

namespace Value

/-- A text without the blanks around it; any other value as it is. -/
def stripped : Value → Value
  | text s => text (Text.trim s)
  | value => value

/-- A truth value as a number. -/
def asBit : Value → Value
  | bool value => int (if value then 1 else 0)
  | value => value

end Value

/-- The complaint that a value is missing, if it is. -/
def absenceComplaint? (isEmpty : Value → Outcome Bool) (strict message value : Value) :
    Outcome (Option Complaint) := do
  let present ←
    if strict.truthy then pure !value.isNull else Bool.not <$> isEmpty value.stripped
  return if present then none
    else some ⟨message.orDefault "\x7battribute\x7d cannot be blank.", []⟩

/-- The complaint that a value does not agree with the wanted one. -/
def mismatchComplaint? (wanted strict message value : Value) : Option Complaint :=
  if value.agrees strict.truthy wanted then none
  else some ⟨message.orDefault "\x7battribute\x7d must be \"\x7brequired_value\x7d\".",
    [("required_value", wanted)]⟩

/-- The complaint about a value that is required, and required to be a wanted one if there is
one. -/
def presenceComplaint? (isEmpty : Value → Outcome Bool) (wanted strict message value : Value) :
    Outcome (Option Complaint) :=
  if wanted.isNull then absenceComplaint? isEmpty strict message value
  else .ok (mismatchComplaint? wanted strict message value)

/-- The complaint about a value that is neither of two. -/
def choiceComplaint? (trueValue falseValue strict message value : Value) : Option Complaint :=
  let value := if strict.truthy then value else value.asBit
  if value.agrees strict.truthy trueValue || value.agrees strict.truthy falseValue then none
  else some ⟨message.orDefault
      "\x7battribute\x7d must be either \"\x7btrue\x7d\" or \"\x7bfalse\x7d\".",
    [("true", trueValue), ("false", falseValue)]⟩

end RecordValidation
