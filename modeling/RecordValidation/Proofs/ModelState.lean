import RecordValidation.Model
import RecordValidation.Proofs.Effects
import RecordValidation.Proofs.OrderedMaps
import RecordValidation.Proofs.ScenarioViews

/-!
# What a model holds and which validators it works with

A model holds one value for each attribute of its schema, in the order of the schema.
`FollowsSchema` says so; a fresh model starts that way and writing an attribute keeps it that way.

The validators in force are those that are kept, or those the rules compile to if none are. Asking
for them keeps them (`run_validators`), and what is safe in the scenario of a model follows from
them (`run_safeAttributes`).
-/

namespace RecordValidation

namespace Model

/-- A model holds one value for each attribute of its schema. -/
def FollowsSchema (model : Model) : Prop := model.values.keys = model.attributeNames

/-- The attributes held are those of the schema. -/
theorem FollowsSchema.contains {model : Model} (follows : model.FollowsSchema) (name : Value) :
    model.values.contains name = model.attributeNames.contains name := by
  rw [← OrderedMap.contains_keys, follows]

/-- A fresh model holds the default values of its schema, each under its name. The names of a schema
differ, so each default value is entered as a new key, behind those before it. -/
theorem followsSchema_fresh (type : ModelType) (scenario : Value) :
    (fresh type scenario).FollowsSchema := by
  have unlike : (type.schema.defaults.map fun entry => (Value.text entry.1, entry.2)).Pairwise
      fun a b => (a.1 == b.1) = false := by
    have different := List.pairwise_map.1 type.schema.distinct
    rw [List.pairwise_map, Schema.defaults, List.pairwise_map]
    refine different.imp fun apart => ?_
    rw [Value.text_beq_text]
    exact beq_false_of_ne apart
  have keys := OrderedMap.keys_insertAll_new .empty _ unlike fun _ _ => rfl
  refine keys.trans ?_
  simp [attributeNames, fresh, Schema.names, Schema.defaults, OrderedMap.keys, OrderedMap.empty]

/-- Writing to attributes that are held leaves a model with the attributes of its schema. -/
theorem FollowsSchema.insertAll {model : Model} (follows : model.FollowsSchema)
    {entries : List (Value × Value)}
    (held : ∀ entry ∈ entries, model.values.contains entry.1 = true) :
    { model with values := model.values.insertAll entries : Model }.FollowsSchema :=
  (model.values.keys_insertAll entries held).trans follows

/-- Writing an attribute changes nothing but the values. There is no saying here which values, and
no need to wherever only the rest of the model is looked at. -/
theorem exists_values_of_write {model written : Model} {name value : Value}
    (done : model.write name value = .ok written) : ∃ values, written = { model with values } := by
  obtain ⟨key, -, result⟩ := Outcome.bind_eq_ok_iff.1 done
  split at result
  · exact ⟨_, (Except.ok.inj result).symm⟩
  · cases result

/-- Writing an attribute leaves a model with the attributes of its schema. A name that is not held
is refused, and one that is held keeps its place. -/
theorem FollowsSchema.write {model written : Model} (follows : model.FollowsSchema)
    {name value : Value} (done : model.write name value = .ok written) : written.FollowsSchema := by
  simp only [Model.write, Value.asName] at done
  split at done
  · simp only [bind, Except.bind] at done
    split at done
    · rename_i present
      obtain rfl := Except.ok.inj done
      exact (model.values.keys_insert value present).trans follows
    · cases done
  · cases done

/-- Writing an attribute writes its value, or stops and changes nothing. The model is written as a
whole, so the session changes in one step or not at all. -/
theorem run_set (name value : Value) (session : Session Model) :
    (perform (.set name value)).run session =
      match session.record.write name value with
      | .ok written => .ok () { session with record := written }
      | .error fault => .error fault session := by
  rw [perform, EStateM.run_bind, Act.run_record]
  dsimp only
  cases session.record.write name value <;> rfl

/-- Writing an attribute, whether or not it stops, changes nothing but the values, and leaves a
model with the attributes of its schema. -/
theorem exists_values_of_set (name value : Value) {session : Session Model}
    (follows : session.record.FollowsSchema) :
    ∃ values, (perform (.set name value)).final session =
        { session with record := { session.record with values } } ∧
      { session.record with values : Model }.FollowsSchema := by
  unfold Act.final
  rw [run_set]
  cases done : session.record.write name value with
  | error fault => exact ⟨session.record.values, rfl, follows⟩
  | ok written =>
    have kept := follows.write done
    obtain ⟨values, rfl⟩ := exists_values_of_write done
    exact ⟨values, rfl, kept⟩

/-- Reading depends only on the type of a model and on the value held. The type matters for the
fault with which an unknown name is refused. -/
theorem read_congr {model other : Model} {name : Value} (sameType : other.type = model.type)
    (sameValue : other.values.get? name = model.values.get? name) :
    other.read name = model.read name := by
  unfold read unknown
  cases named : name.asName with
  | ok key =>
    have same : key = name := (Value.isName_of_asName named).1
    simp only [bind, Except.bind, same, sameValue, sameType]
  | error fault => rfl

/-- The validators that a model works with: those it keeps, or those its rules compile to. -/
def inForce (model : Model) : Outcome (List Validator) :=
  match model.cache.current with
  | some kept => .ok kept
  | none => compile .builtin (some model.type.owner) model.type.rules

/-- A session in which the validators in force are kept, and their compilation has been reported if
they were not. -/
def keeping (active : List Validator) (session : Session Model) : Session Model :=
  match session.record.cache.current with
  | some _ => session
  | none => { session with
      record := { session.record with cache := session.record.cache.keep active }
      events := session.events ++ [compiledEvent (some session.record.type.owner) active] }

/-- Keeping validators leaves everything else about the model as it is. -/
theorem record_keeping (active : List Validator) (session : Session Model) :
    ∃ cache, (keeping active session).record = { session.record with cache } := by
  unfold keeping
  split
  · exact ⟨session.record.cache, rfl⟩
  · exact ⟨_, rfl⟩

/-- Keeping validators leaves the errors as they are. -/
@[simp] theorem errors_keeping (active : List Validator) (session : Session Model) :
    (keeping active session).errors = session.errors := by
  unfold keeping
  split <;> rfl

/-- Asking for the validators gives those in force and keeps them. If none are kept the rules are
compiled, and the compilation succeeds because it is what gives those in force. -/
theorem run_validators {session : Session Model} {active : List Validator}
    (inForce : session.record.inForce = .ok active) :
    validators.run session = .ok active (keeping active session) := by
  unfold Model.inForce at inForce
  unfold validators keeping
  rw [EStateM.run_bind, Act.run_record]
  cases kept : session.record.cache.current with
  | some held =>
    rw [kept] at inForce
    obtain rfl := Except.ok.inj inForce
    simp only [kept]
    rfl
  | none =>
    rw [kept] at inForce
    simp only [kept, compileRules, setCache, EStateM.run_bind, Act.run_record, inForce,
      Act.ofOutcome_ok, EStateM.run_pure, Act.run_observe, Act.run_setRecord]

/-- The safe attributes of a model that declares no scenarios are those that follow from the
validators in force. The map is resolved from the validators in force, and looking up the scenario
of the model in it cannot fail where scenario and validators are well named. -/
theorem run_safeAttributes {session : Session Model} {active : List Validator}
    (derived : session.record.type.scenarios = none)
    (inForce : session.record.inForce = .ok active)
    (named : ∀ validator ∈ active, validator.WellNamed)
    (scenarioNamed : session.record.scenario.IsName) :
    safeAttributes.run session =
      .ok (Resolution.safeAttributes ScenarioMap.defaultScenario active session.record.scenario)
        (keeping active session) := by
  obtain ⟨cache, record⟩ := record_keeping active session
  have defaultNamed : ScenarioMap.defaultScenario.IsName := Value.isName_text _
  have map : scenarioMap.run session =
      .ok (Resolution.scenarioMap ScenarioMap.defaultScenario active) (keeping active session) := by
    rw [scenarioMap, EStateM.run_bind, Act.run_record]
    simp only [derived, resolvedScenarios, EStateM.run_bind, run_validators inForce,
      resolve_of_nameable defaultNamed fun validator present => (named validator present).nameable,
      Act.ofOutcome_ok, EStateM.run_pure]
  simp only [safeAttributes, EStateM.run_bind, map, Act.run_record, record,
    Resolution.safeAttributes_scenarioMap scenarioNamed named, Act.ofOutcome_ok, EStateM.run_pure]

end Model

end RecordValidation
