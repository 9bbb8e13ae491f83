import RecordValidation.Compilation
import RecordValidation.Pass
import RecordValidation.Schema
import RecordValidation.Text.Label

/-!
# Types of models

A model is a record with a schema and rules. Its type may also declare scenarios, labels, hooks
around a pass, methods of its own, and what its data is nested under in a form.
-/

namespace RecordValidation

/-- Scenarios that a type of models declares. -/
structure DeclaredScenarios where
  entries : List (Value × Value)
  /-- Whether they come on top of the scenarios of the rules, or take their place. -/
  onTop : Bool

/-- A type of models. -/
structure ModelType where
  name : String
  schema : Schema
  /-- The rules as they are declared. -/
  rules : List Value
  /-- What the data of a model is nested under in a form; absent for the name of the type. -/
  formName : Value
  /-- Whether refused assignments are reported. -/
  tracesUnsafe : Value
  /-- Labels in the place of those of the schema. -/
  labels : Option (Value.Table Value)
  scenarios : Option DeclaredScenarios
  before : Option Hook
  after : Option Hook
  /-- Methods of the type's own by name. -/
  methods : OrderedMap String Value

namespace ModelType

/-- The labels of attributes. -/
def attributeLabels (type : ModelType) : Value.Table Value :=
  match type.labels with
  | some labels => labels
  | none => .ofList (type.schema.fields.filterMap fun field =>
      field.label.map fun label => (.text field.name, .text label))

/-- The label made from the name of an attribute. -/
def generatedLabel : Value → Outcome Value
  | .text name => .ok (.text (Text.Label.ofName name))
  | _ => .error .unsupported

/-- The label of an attribute: the one declared, or one made from its name. -/
def labelOf (type : ModelType) (name : Value) : Outcome Value := do
  match type.attributeLabels.get? (← name.asName) with
  | some label => return label
  | none => generatedLabel name

/-- What the data of a model is nested under in a form. -/
def formNameOrOwn (type : ModelType) : Value :=
  if type.formName.isNull then .text type.name else type.formName

/-- What happens before a pass. -/
def beforeHook (type : ModelType) : Hook := type.before.getD ⟨[], .bool true⟩

/-- What happens after a pass. -/
def afterHook (type : ModelType) : Hook := type.after.getD ⟨[], .null⟩

/-- The methods that every model has. -/
def commonMethods : List String := [
  "rules", "attribute_labels", "scenarios", "form_name", "attributes", "get", "set",
  "get_attributes", "set_attributes", "on_unsafe_attribute", "safe_attributes",
  "active_attributes", "is_attribute_safe", "is_attribute_active", "is_attribute_required",
  "get_validators", "create_validators", "reset_validators", "get_active_validators", "validate",
  "before_validate", "after_validate", "has_errors", "get_errors", "get_first_error",
  "get_first_errors", "add_error", "add_errors", "clear_errors", "get_attribute_label",
  "generate_attribute_label", "load",
  "__init__", "__getitem__", "__setitem__", "__contains__", "__iter__", "__repr__",
  "__class__", "__delattr__", "__dir__", "__eq__", "__format__", "__ge__", "__getattribute__",
  "__getstate__", "__gt__", "__hash__", "__init_subclass__", "__le__", "__lt__", "__ne__",
  "__new__", "__reduce__", "__reduce_ex__", "__setattr__", "__sizeof__", "__str__",
  "__subclasshook__"]

/-- What the rules of a type may ask of its models. -/
def owner (type : ModelType) : Owner where
  typeName := type.name
  hasMethod name := type.methods.contains name || commonMethods.contains name

end ModelType

end RecordValidation
