import RecordValidation.Validator.Emptiness

/-!
# Transforms

Two kinds of checks never complain but write to the record: one fills in empty values, the other
replaces a value by what a function makes of it.
-/

namespace RecordValidation

/-- The value a default stands for: what a function gives for the attribute, or the value itself. -/
def defaultFor {ρ : Type} (host : Host ρ) (default name : Value) : Act ρ Value :=
  if default.isCallable then default.callOnAttribute host name else pure default

/-- Fill in a value that the validator counts as empty. -/
def fillIn {ρ : Type} (host : Host ρ) (validator : Validator) (default name : Value) :
    Act ρ Unit := do
  if ← Act.ofOutcome (validator.countsAsEmpty (← host.get name)) then
    host.set name (← defaultFor host default name)

/-- Whether a value is a list. -/
def Value.isList : Value → Bool
  | list _ => true
  | _ => false

/-- Replace a value by what a function makes of it, lists perhaps excepted. -/
def transform {ρ : Type} (host : Host ρ) (function skipList name : Value) : Act ρ Unit := do
  let value ← host.get name
  if !(skipList.truthy && value.isList) then
    host.set name (← Act.ofOutcome (function.callOn value))

end RecordValidation
