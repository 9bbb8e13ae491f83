import RecordValidation.Assignment
import RecordValidation.Model.Cache
import RecordValidation.Model.Type

/-!
# Models

A model holds a value for every attribute of its schema and no others, is in one scenario, and keeps
its compiled validators. Work on a model, with its errors, is an `Act Model`. What is safe, active
and to be validated follows from the scenario map, which is worked out anew each time, so that
validators added to those that are kept count at once.
-/

namespace RecordValidation

/-- An observer of refused assignments: it takes notice, and may then stop with an exception. -/
structure UnsafeObserver where
  raises : Option Value

/-- A model. -/
structure Model where
  type : ModelType
  values : Value.Table Value
  scenario : Value
  cache : ValidatorCache
  /-- Observers before a pass beside the type's own. -/
  before : List Hook
  /-- Observers after a pass beside the type's own. -/
  after : List Hook
  onUnsafe : List UnsafeObserver

namespace Model

/-- The values that a model of a type starts with. -/
def initialValues (type : ModelType) : Value.Table Value :=
  .ofList (type.schema.defaults.map fun entry => (.text entry.1, entry.2))

/-- A model as it starts. -/
def fresh (type : ModelType) (scenario : Value) : Model where
  type
  values := initialValues type
  scenario
  cache := .empty
  before := []
  after := []
  onUnsafe := []

/-- The names of the attributes. -/
def attributeNames (model : Model) : List Value := model.type.schema.names.map .text

/-- The fault that an attribute is not there. -/
def unknown (model : Model) (name : Value) : Fault := .unknownAttribute name model.type.name

/-- The value of an attribute. -/
def read (model : Model) (name : Value) : Outcome Value := do
  match model.values.get? (← name.asName) with
  | some value => return value
  | none => throw (model.unknown name)

/-- The model with a value written to an attribute. -/
def write (model : Model) (name value : Value) : Outcome Model := do
  if model.values.contains (← name.asName) then
    return { model with values := model.values.insert name value }
  else throw (model.unknown name)

/-- Whether an attribute is there and its value is not absent. -/
def holds (model : Model) (name : Value) : Outcome Bool := do
  match model.values.get? (← name.asName) with
  | some value => return !value.isNull
  | none => return false

/-- The values of some attributes, those to be left out excepted. -/
def readAll (model : Model) (skipped : List Value) : List Value → Outcome (Value.Table Value)
  | [] => .ok .empty
  | names => names.foldlM (fun table name => do
      if skipped.contains (← name.asName) then return table
      else return table.insert name (← model.read name)) .empty

/-- The values of the named attributes, or of all if none are named, those to be left out
excepted. -/
def select (model : Model) (names except : Value) : Outcome (Value.Table Value) := do
  let skipped ← except.nameSet
  let selected ← if names.isNull then pure model.attributeNames else names.items
  model.readAll skipped selected

/-- The attributes with their values as a sequence of pairs. -/
def asSequence (model : Model) : Outcome Value := do
  let table ← model.select .null (.tuple [])
  return .list (table.entries.map fun entry => .tuple [entry.1, entry.2])

/-- The label of an attribute. -/
def label (model : Model) (name : Value) : Outcome Value := model.type.labelOf name

/-- The model as it is shown. -/
def shown (model : Model) : String :=
  model.type.name ++ "(scenario=" ++ model.scenario.shown ++ ", "
    ++ (Value.map model.values.entries).shown ++ ")"

/-- Enter a scenario. -/
def enter (scenario : Value) : Act Model Unit := do
  Act.setRecord { (← Act.record) with scenario }

/-- Compile the rules anew. -/
def compileRules : Act Model (List Validator) := do
  let type := (← Act.record).type
  let validators ← Act.ofOutcome (compile .builtin (some type.owner) type.rules)
  Act.observe (compiledEvent (some type.owner) validators)
  return validators

/-- Change what validators are kept. -/
def setCache (cache : ValidatorCache) : Act Model Unit := do
  Act.setRecord { (← Act.record) with cache }

/-- The validators, compiled if they are not kept yet. -/
def validators : Act Model (List Validator) := do
  match (← Act.record).cache.current with
  | some kept => return kept
  | none =>
    let compiled ← compileRules
    setCache ((← Act.record).cache.keep compiled)
    return compiled

/-- Add a validator to those that are kept. -/
def inject (validator : Validator) : Act Model Unit := do
  let kept ← validators
  setCache ((← Act.record).cache.keep (kept ++ [validator]))

/-- Take the last validator away from those that are kept. -/
def dropLast : Act Model Validator := do
  let kept ← validators
  match kept.getLast? with
  | some last =>
    setCache ((← Act.record).cache.keep kept.dropLast)
    return last
  | none => throw .badValue

/-- Forget the validators that are kept. -/
def resetValidators : Act Model Unit := do setCache (← Act.record).cache.forget

/-- The scenarios that follow from the validators. -/
def resolvedScenarios : Act Model ScenarioMap := do
  Act.ofOutcome (resolve ScenarioMap.defaultScenario (← validators))

/-- The scenarios of a map as they would be declared. -/
def asDeclared (scenarios : ScenarioMap) : List (Value × Value) :=
  (scenarios.scenarios.mapValues Value.tuple).entries

/-- The scenario map. -/
def scenarioMap : Act Model ScenarioMap := do
  match (← Act.record).type.scenarios with
  | none => resolvedScenarios
  | some declared =>
    let base ← if declared.onTop then asDeclared <$> resolvedScenarios else pure []
    Act.ofOutcome (ScenarioMap.ofDeclared (base ++ declared.entries))

/-- The attributes that mass assignment may write. -/
def safeAttributes : Act Model (List String) := do
  let scenarios ← scenarioMap
  Act.ofOutcome (scenarios.safeAttributes (← Act.record).scenario)

/-- The attributes that are validated. -/
def activeAttributes : Act Model (List String) := do
  let scenarios ← scenarioMap
  Act.ofOutcome (scenarios.activeAttributes (← Act.record).scenario)

/-- The validators active in the scenario, or those of them that cover an attribute if one is
named. -/
def activeFor (name : Value) : Act Model (List Validator) := do
  let kept ← validators
  let names := if name.isNull then .null else .list [name]
  Act.ofOutcome (activeValidators (← Act.record).scenario names kept)

/-- Whether an attribute is safe. -/
def isSafe (name : Value) : Act Model Bool := do
  return ((← safeAttributes).map Value.text).contains name

/-- Whether an attribute is active. -/
def isActive (name : Value) : Act Model Bool := do
  return ((← activeAttributes).map Value.text).contains name

/-- Whether an attribute has to be there under no further condition. -/
def isRequired (name : Value) : Act Model Bool := do
  return (← activeFor name).any fun validator =>
    validator.check.kind == .required && validator.guard.isNull

/-- Tell the observers of refused assignments, one after the other. -/
def notify (typeName : String) (name value : Value) : List UnsafeObserver → Act Model Unit
  | [] => return
  | observer :: rest => do
    Act.observe (.notice typeName name value)
    match observer.raises with
    | some message => throw (.raised message.toText)
    | none => notify typeName name value rest

/-- Report an attempt to write an attribute that is not safe. -/
def reportUnsafe (name value : Value) : Act Model Unit := do
  let model ← Act.record
  if model.type.tracesUnsafe.truthy then Act.observe (.rejected model.type.name name)
  notify model.type.name name value model.onUnsafe

/-- Perform an action of a script. -/
def perform : Action → Act Model Unit
  | .set name value => do Act.setRecord (← Act.ofOutcome ((← Act.record).write name value))
  | .addError name message => Act.addError name message
  | .clearErrors name => Act.clearErrors name
  | .enter scenario => enter scenario
  | .inject validator => inject validator
  | .resetValidators => resetValidators
  | .note text => Act.observe (.note text)
  | .noteErrors => do Act.observe (.errors (← Act.errors).all)
  | .raise message => throw (.raised message.toText)

/-- What a model of a type offers, given how its methods are called. -/
def hostWith (type : ModelType) (invoke : String → Value → Value → Act Model Value) :
    Host Model where
  typeName := type.name
  read := read
  write := write
  label? := some label
  knowsErrors := true
  asSequence := asSequence
  invoke := invoke
  perform := perform

/-- What a model of a type offers where no method is called. -/
def plainHost (type : ModelType) : Host Model := hostWith type fun _ _ _ => throw .unsupported

/-- Assign values to attributes. Safe assignments write only what is safe in the scenario, and
report the rest; others write every attribute there is. -/
def setAttributes (values safeOnly : Value) : Act Model Unit := do
  let permitted ←
    if safeOnly.truthy then (fun names => names.map Value.text) <$> safeAttributes
    else (fun model => model.attributeNames) <$> Act.record
  let type := (← Act.record).type
  let _ ← assign (plainHost type) values (.list permitted) safeOnly (some reportUnsafe)

/-- A session that starts with a model. -/
def session (model : Model) : Session Model where
  record := model
  errors := .empty
  events := []

/-- A model made with a scenario and values; what is no attribute is left out. -/
def create (type : ModelType) (scenario : Value) (values : List (String × Value)) :
    EStateM.Result Fault (Session Model) Unit :=
  let start := (fresh type scenario).session
  if values.isEmpty then .ok () start
  else
    let entries := values.map fun entry => (.text entry.1, entry.2)
    (setAttributes (.map entries) (.bool false)).run start

/-- Arguments of a new model: the scenario may stand among the values, but not twice. -/
def createWith (type : ModelType) (scenario : Option Value) (values : List (String × Value)) :
    EStateM.Result Fault (Session Model) Unit :=
  let refused := (fresh type ScenarioMap.defaultScenario).session
  if (values.lookup "self").isSome then .error .unsupported refused
  else
    match scenario, values.lookup "scenario" with
    | some _, some _ => .error .unsupported refused
    | some scenario, none => create type scenario values
    | none, some scenario => create type scenario (values.filter fun entry => entry.1 != "scenario")
    | none, none => create type ScenarioMap.defaultScenario values

/-- The data of a model inside the data of a form, if it is there. -/
def formData? (scope data : Value) : Outcome (Option Value) := do
  if scope.equals (.text "") && data.truthy then return some data
  else if scope.truthy then
    if ← scope.isIn data then return some (← data.itemAt scope) else return none
  else return none

/-- Assign the part of a form's data that belongs to the model; whether there is one. -/
def load (data formName : Value) : Act Model Bool := do
  let type := (← Act.record).type
  let scope := if formName.isNull then type.formNameOrOwn else formName
  match ← Act.ofOutcome (formData? scope data) with
  | some own =>
    setAttributes own (.bool true)
    return true
  | none => return false

end Model

end RecordValidation
