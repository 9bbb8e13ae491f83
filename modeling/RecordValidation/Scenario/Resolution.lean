import RecordValidation.Scenario.Map
import RecordValidation.Validator.Selection

/-!
# Scenarios of a list of validators

The scenarios of a list of validators are the default scenario and every scenario that a validator
mentions. A validator with scenarios of its own puts its descriptors under those; one without puts
them under every scenario it does not exclude. Descriptors are collected in the order in which they
come, each once, and a scenario other than the default that gets none is dropped.

Names have to be comparable as names, so `resolve` checks all that are looked up before it collects.
-/

namespace RecordValidation

namespace Resolution

/-- Add a name to the end unless it is there. -/
def insertNew (names : List Value) (name : Value) : List Value :=
  if names.contains name then names else names ++ [name]

/-- The scenarios that a validator mentions. -/
def mentioned (validator : Validator) : List Value := validator.on ++ validator.except

/-- The default scenario and every scenario mentioned, in order. -/
def candidates (default : Value) (validators : List Validator) : List Value :=
  (validators.flatMap mentioned).foldl insertNew [default]

/-- The candidates that a validator applies to. -/
def applicable (candidates : List Value) (validator : Validator) : List Value :=
  if validator.on.isEmpty then candidates.filter fun name => !validator.except.contains name
  else validator.on

/-- Put a validator's descriptors under the scenarios it applies to. -/
def collect (candidates : List Value) (buckets : Value.Table (List Value))
    (validator : Validator) : Value.Table (List Value) :=
  (applicable candidates validator).foldl
    (fun buckets name => buckets.alter name [] fun bucket =>
      validator.attributes.foldl insertNew bucket) buckets

/-- The scenarios with the descriptors collected under them. -/
def buckets (default : Value) (validators : List Validator) : Value.Table (List Value) :=
  let names := candidates default validators
  validators.foldl (collect names) ⟨names.map fun name => (name, [])⟩

/-- The scenario map of a list of validators. -/
def scenarioMap (default : Value) (validators : List Validator) : ScenarioMap :=
  ⟨⟨(buckets default validators).entries.filter fun entry =>
    !entry.2.isEmpty || entry.1 == default⟩⟩

/-- The values that are looked up as names, in the order in which they are. -/
def lookedUp (default : Value) (validators : List Validator) : List Value :=
  default :: validators.flatMap mentioned
    ++ (validators.filter fun validator =>
        !(applicable (candidates default validators) validator).isEmpty).flatMap (·.attributes)

end Resolution

/-- The scenario map of a list of validators, provided that everything looked up can be a name. -/
def resolve (default : Value) (validators : List Validator) : Outcome ScenarioMap := do
  let _ ← Value.asNames (Resolution.lookedUp default validators)
  return Resolution.scenarioMap default validators

end RecordValidation
