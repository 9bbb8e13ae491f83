import RecordValidation.Scenario.Resolution
import RecordValidation.Validator.Run

/-!
# Validation passes

A pass validates a record in a scenario. It clears the errors unless told not to, lets every
observer before the pass run, and is called off if one of them answers with false. Then the scenario
has to be declared. The attributes checked are the active ones of the scenario, or those asked for;
every validator that is active in the scenario and covers one of them runs, in order, and none of
them ends the pass. Observers after the pass run last, and the record is valid if there are no
errors.
-/

namespace RecordValidation

/-- Something done to a record before or after a pass. -/
structure Hook where
  actions : List Action
  /-- The answer once the actions are done. -/
  answer : Value

/-- Perform the actions of a hook. -/
def Hook.run {ρ : Type} (host : Host ρ) (hook : Hook) : Act ρ Value := do
  hook.actions.forM host.perform
  return hook.answer

/-- Whether an answer calls a pass off: only falsehood itself does. -/
def Value.callsOff : Value → Bool
  | bool value => !value
  | _ => false

/-- What a pass is to do. -/
structure Pass (ρ : Type) where
  scenario : Value
  /-- The attributes to check; absent for the active ones. -/
  names : Value
  /-- Whether errors are cleared first. -/
  clears : Bool
  before : List Hook
  after : List Hook
  /-- The scenario map, worked out after the observers before the pass have run. -/
  scenarioMap : Act ρ ScenarioMap
  /-- The validators, as they are once the scenario map is known. -/
  validators : Act ρ (List Validator)

namespace Pass

variable {ρ : Type}

/-- Run all observers before the pass; whether none of them calls it off. -/
def opens (host : Host ρ) : List Hook → Act ρ Bool
  | [] => return true
  | hook :: rest => do
    let answer ← hook.run host
    let others ← opens host rest
    return !answer.callsOff && others

/-- The attributes that are checked. -/
def checkedNames (pass : Pass ρ) (scenarios : ScenarioMap) : Outcome (List Value) :=
  match pass.names with
  | .null => (·.map .text) <$> scenarios.activeAttributes pass.scenario
  | names => names.items

/-- Run the validators of a list that are active and cover one of the names. -/
def runActive (host : Host ρ) (scenario : Value) (names : List Value)
    (validators : List Validator) : Act ρ Unit := do
  for validator in ← Act.ofOutcome (activeValidators scenario (.list names) validators) do
    validator.runOn host (.list names)

/-- Check the record once the observers before the pass have let it through. -/
def checkRecord (host : Host ρ) (pass : Pass ρ) : Act ρ Unit := do
  let scenarios ← pass.scenarioMap
  if !(← Act.ofOutcome (scenarios.declares pass.scenario)) then
    throw (.unknownScenario pass.scenario scenarios.names)
  let names ← Act.ofOutcome (pass.checkedNames scenarios)
  runActive host pass.scenario names (← pass.validators)
  for hook in pass.after do
    let _ ← hook.run host

/-- Run the pass; whether the record is valid. -/
def run (host : Host ρ) (pass : Pass ρ) : Act ρ Bool := do
  if pass.clears then Act.clearErrors .null
  if ← opens host pass.before then
    pass.checkRecord host
    let errors ← Act.errors
    Act.observe (.validated host.typeName pass.scenario errors.size)
    return errors.isEmpty
  else
    Act.observe (.cancelled host.typeName)
    return false

end Pass

end RecordValidation
