import RecordValidation.Model

/-!
# Validating models

A model is validated in its scenario, with its own validators, scenarios and hooks. Inline checks
may call methods of the model, with the attribute and the parameters of the check. Of the methods
that every model has, those that can be called with two arguments are here, except `__setattr__`;
the others take fewer or more. As one of them is validation itself, passes may run inside each
other, up to a depth.

`__setattr__` assigns to a part of the model as an object, whatever the schema says, and is none of
the operations of a record. A rule that names it compiles, because every model has a method of that
name; what calling it does is out of scope, and the call is refused as unsupported.
-/

namespace RecordValidation

namespace Model

/-- Call one of the methods that every model has, where `validate` runs a pass. The raw assignment
`__setattr__` is out of scope. -/
def invokeCommon (validate : Value → Value → Act Model Bool) (name : String)
    (target params : Value) : Act Model Value :=
  match name with
  | "add_error" => do
    Act.addError target params
    return .null
  | "set" | "__setitem__" => do
    perform (.set target params)
    return .null
  | "on_unsafe_attribute" => do
    reportUnsafe target params
    return .null
  | "get_attributes" => do
    let table ← Act.ofOutcome ((← Act.record).select target params)
    return .map table.entries
  | "set_attributes" => do
    setAttributes target params
    return .null
  | "load" => Value.bool <$> load target params
  | "validate" => Value.bool <$> validate target params
  | _ => throw .unsupported

/-- Call a method of a model: one of its type's own, or one that every model has. -/
def invoke (type : ModelType) (validate : Value → Value → Act Model Bool) (name : String)
    (target params : Value) : Act Model Value :=
  match type.methods.get? name with
  | some function => function.callOnParams (plainHost type) target params
  | none => invokeCommon validate name target params

/-- The pass that validates a model. -/
def pass (model : Model) (generation : Nat) (names clears : Value) : Pass Model where
  scenario := model.scenario
  names
  clears := clears.truthy
  before := model.type.beforeHook :: model.before
  after := model.type.afterHook :: model.after
  scenarioMap := scenarioMap
  validators := return (← Act.record).cache.atGeneration generation

/-- Validate a model; passes inside each other go to a depth. -/
def validateTo : (depth : Nat) → (names clears : Value) → Act Model Bool
  | 0, _, _ => throw .tooDeep
  | depth + 1, names, clears => do
    let _ ← validators
    let model ← Act.record
    let host := hostWith model.type (invoke model.type (validateTo depth))
    (pass model model.cache.generation names clears).run host

/-- How deep passes may run inside each other. -/
def depthLimit : Nat := 200

/-- Validate a model. -/
def validate (names clears : Value) : Act Model Bool := validateTo depthLimit names clears

/-- What a model of a type offers. -/
def host (type : ModelType) : Host Model := hostWith type (invoke type validate)

end Model

end RecordValidation
