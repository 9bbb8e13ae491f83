import RecordValidation.Scenario.Descriptor
import RecordValidation.Value.Names

/-!
# What a validator covers

A validator is active in the scenarios it names under `on`; if it names none, in all but those under
`except`. Its attributes are those of its descriptors; asked about some names, it covers the ones
among them, each as often as it lists it.
-/

namespace RecordValidation

namespace ValidatorOf

/-- Whether the validator is active in a scenario. -/
def appliesTo (validator : Validator) (scenario : Value) : Bool :=
  if validator.on.isEmpty then !validator.except.contains scenario
  else validator.on.contains scenario

/-- The names of the validator's attributes. -/
def ownNames (validator : Validator) : Outcome (List String) :=
  Descriptor.names validator.attributes

/-- The names of the validator's attributes, or those of them that are requested. -/
def covered (validator : Validator) (requested : Option (List Value)) : Outcome (List String) := do
  let own ← validator.ownNames
  match requested with
  | none => return own
  | some names =>
    let names ← Value.asNames names
    return own.filter fun name => names.contains (.text name)

/-- The names covered, where the request is a value to be gone through, or absent. -/
def coveredBy (validator : Validator) (requested : Value) : Outcome (List String) := do
  let _ ← validator.ownNames
  match requested with
  | .null => validator.covered none
  | value => validator.covered (some (← value.items))

end ValidatorOf

/-- Whether a validator is active in a scenario and covers at least one of the names, if some are
given. -/
def ValidatorOf.isActive (validator : Validator) (scenario names : Value) : Outcome Bool :=
  if validator.appliesTo scenario then
    match names with
    | .null => .ok true
    | names => (fun covered => !covered.isEmpty) <$> validator.coveredBy names
  else .ok false

/-- The validators active in a scenario that cover at least one of the names, or all active ones if
no names are given. -/
def activeValidators (scenario names : Value) : List Validator → Outcome (List Validator)
  | [] => .ok []
  | validator :: rest => do
    let chosen ← validator.isActive scenario names
    let others ← activeValidators scenario names rest
    return if chosen then validator :: others else others

end RecordValidation
