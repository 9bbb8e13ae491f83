import RecordValidation.Scenario.Descriptor
import RecordValidation.Value.Names

/-!
# Scenario maps

A scenario map says which descriptors are active in each scenario. Scenarios keep the order in which
they were declared. A scenario that is not in the map has no attributes.
-/

namespace RecordValidation

/-- The active descriptors of each scenario. -/
structure ScenarioMap where
  scenarios : Value.Table (List Value)

namespace ScenarioMap

/-- The scenario every record starts in. -/
def defaultScenario : Value := .text "default"

/-- The names of the scenarios, in order. -/
def names (m : ScenarioMap) : List Value := m.scenarios.keys

/-- Whether a scenario is declared. -/
def declares (m : ScenarioMap) (scenario : Value) : Outcome Bool := do
  return m.scenarios.contains (← scenario.asName)

/-- The descriptors of a scenario. -/
def descriptors (m : ScenarioMap) (scenario : Value) : List Value :=
  (m.scenarios.get? scenario).getD []

/-- The attributes validated in a scenario. -/
def activeAttributes (m : ScenarioMap) (scenario : Value) : Outcome (List String) := do
  Descriptor.names (m.descriptors (← scenario.asName))

/-- The attributes that mass assignment may write in a scenario. -/
def safeAttributes (m : ScenarioMap) (scenario : Value) : Outcome (List String) := do
  Descriptor.safeNames (m.descriptors (← scenario.asName))

/-- The map as it is shown. -/
def shown (m : ScenarioMap) : String :=
  "ScenarioMap(" ++ (Value.map (m.scenarios.mapValues .tuple).entries).shown ++ ")"

/-- The map of scenarios with all their descriptors as they are given. -/
def ofEntries (entries : List (Value × Value)) : Outcome ScenarioMap := do
  let entries ← entries.mapM fun entry => do return (← entry.1.asName, entry.2)
  let declared : Value.Table Value := OrderedMap.ofList entries
  return ⟨⟨← declared.entries.mapM fun entry => do return (entry.1, ← entry.2.items)⟩⟩

/-- The map with the repetitions among the descriptors of each scenario dropped. -/
def withoutRepetitions (m : ScenarioMap) : ScenarioMap := ⟨m.scenarios.mapValues Value.distinct⟩

/-- The map of declared scenarios. -/
def ofDeclared (entries : List (Value × Value)) : Outcome ScenarioMap :=
  withoutRepetitions <$> ofEntries entries

end ScenarioMap

end RecordValidation
