import RecordValidation.Validator.Selection
import RecordValidation.Validator.Verdict

/-!
# Running validators

A validator goes through the attributes it covers, in its own order. It leaves out an attribute that
has errors already, one whose value is empty, and one its guard refuses, as far as its options ask
for that; of the others every message goes into the errors. A validator without a check does
nothing.
-/

namespace RecordValidation

namespace ValidatorOf

variable {ρ : Type}

/-- Whether a validator leaves out an attribute because it has errors. -/
def skipsFailing (validator : Validator) (name : Value) : Act ρ Bool := do
  return validator.skipOnError.truthy && (← Act.errors).has name

/-- Whether a validator leaves out an attribute because its value is empty. -/
def skipsEmpty (host : Host ρ) (validator : Validator) (name : Value) : Act ρ Bool := do
  if validator.skipOnEmpty.truthy then
    Act.ofOutcome (validator.countsAsEmpty (← host.get name))
  else return false

/-- Whether a validator leaves out an attribute because its guard refuses it. -/
def skipsGuarded (host : Host ρ) (validator : Validator) (name : Value) : Act ρ Bool := do
  if validator.guard.isNull then return false
  else return !(← validator.guard.callOnAttribute host name).truthy

/-- Check an attribute and put the messages into the errors. -/
def report (host : Host ρ) (validator : Validator) (name : Value) : Act ρ Unit := do
  for message in ← validator.verdict host name do
    Act.addError name message

/-- Check an attribute unless it is left out. -/
def checkAttribute (host : Host ρ) (validator : Validator) (name : Value) : Act ρ Unit := do
  if ← validator.skipsFailing name then return
  if ← validator.skipsEmpty host name then return
  if ← validator.skipsGuarded host name then return
  validator.report host name

/-- Whether the validator has a check. -/
def checks (validator : Validator) : Bool := validator.check.kind != .safe

/-- Check the attributes that a validator covers. -/
def run (host : Host ρ) (validator : Validator) (names : List String) : Act ρ Unit := do
  names.forM fun name => validator.checkAttribute host (.text name)

/-- Check the attributes that a validator covers among those requested, or all if none are. -/
def runOn (host : Host ρ) (validator : Validator) (requested : Value) : Act ρ Unit := do
  if validator.checks then
    validator.run host (← Act.ofOutcome (validator.coveredBy requested))

end ValidatorOf

end RecordValidation
