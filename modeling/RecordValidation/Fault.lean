import RecordValidation.Value.Text

/-!
# Faults

What can go wrong outside of a record's own errors. Each fault is a cause with what it concerns, and
`Fault.message` words those that are worded. A failing check is never a fault: it goes into the
record's errors.
-/

namespace RecordValidation

/-- What is wrong with one part of a declaration. -/
inductive DetailKind
  | notText
  | notList
  | notCallable
  | emptyText
  | missing
  | unexpected
  deriving DecidableEq

/-- The code of a complaint about a part of a declaration. -/
def DetailKind.code : DetailKind → String
  | notText => "string_type"
  | notList => "list_type"
  | notCallable => "callable_type"
  | emptyText => "string_too_short"
  | missing => "missing"
  | unexpected => "extra_forbidden"

/-- A complaint about one part of a declaration. -/
structure Detail where
  /-- The way to the part. -/
  location : List String
  kind : DetailKind
  deriving DecidableEq

/-- A value used in a way its type does not allow, or a call with arguments that do not fit. -/
inductive Misuse
  | notIterable (typeName : String)
  | unhashable (typeName : String)
  | unexpectedArgument (owner argument : String)
  | repeatedArgument (owner argument : String)
  | repeatedKeyword (owner argument : String)
  | missingArgument (owner argument : String)
  | abstractKind
  /-- A use whose wording nobody asks for. -/
  | unsupported
  deriving DecidableEq

/-- The wording of a misuse. -/
def Misuse.message : Misuse → String
  | notIterable typeName => s!"'{typeName}' object is not iterable"
  | unhashable typeName => s!"unhashable type: '{typeName}'"
  | unexpectedArgument owner argument =>
    s!"{owner}.__init__() got an unexpected keyword argument '{argument}'"
  | repeatedArgument owner argument =>
    s!"{owner}.__init__() got multiple values for argument '{argument}'"
  | repeatedKeyword owner argument =>
    s!"{owner}() got multiple values for keyword argument '{argument}'"
  | missingArgument owner argument =>
    s!"{owner}.__init__() missing 1 required positional argument: '{argument}'"
  | abstractKind =>
    "Can't instantiate abstract class Validator with abstract method validate_attribute"
  | unsupported => ""

/-- What is wrong with a declaration. -/
inductive DeclarationProblem
  /-- A rule without attributes or without a validator. -/
  | incompleteRule
  | parametersNotMapping
  | notARule (typeName : String)
  /-- A rule whose parts have the wrong types. -/
  | malformedRule (details : List Detail)
  | unknownAlias (name : String) (known : List Value)
  | notAValidator (declared : Value)
  /-- Parameters that do not fit the kind of check, or an inline check if there is none. -/
  | badParameters (kind : Option CheckKind) (misuse : Misuse)
  | badLength
  | unknownRelation (given : Value)
  | unknownComparison (given : Value)
  | missingRange
  | missingPattern
  | malformedPattern (source description : String)
  | missingFilter
  | duplicateField (name : String)
  | notATable (shown : String)

/-- The symbols of the relations in the order of their characters. -/
def sortedSymbols : List String := ["!=", "<", "<=", "==", ">", ">="]

/-- The wording of a problem with a declaration. -/
def DeclarationProblem.message : DeclarationProblem → String
  | incompleteRule =>
    "Invalid validation rule: a rule must specify both attribute names and validator type."
  | parametersNotMapping => "Invalid validation rule: rule parameters must be a mapping."
  | notARule typeName => s!"Invalid validation rule of type {typeName}."
  | malformedRule details =>
    let errors := if details.length = 1 then "error" else "errors"
    s!"Invalid validation rule: {details.length} validation {errors} for RuleSpec"
  | unknownAlias name known =>
    s!"Unknown validator type: '{name}'. Registered types: {(Value.list known).shown}."
  | notAValidator declared => s!"Invalid validator type: {declared.shown}."
  | badParameters (some kind) misuse => s!"Invalid parameters for {kind.name}: {misuse.message}"
  | badParameters none misuse => s!"Invalid parameters for inline validator: {misuse.message}"
  | badLength => "StringValidator.length must be an int or a (min, max) pair."
  | unknownRelation given =>
    let symbols := (Value.list (sortedSymbols.map .text)).shown
    s!"Unknown compare operator '{given.toText}'. Supported: {symbols}."
  | unknownComparison given =>
    s!"Unknown compare type '{given.toText}'. Supported: ['number', 'string']."
  | missingRange => "RangeValidator requires a 'range' parameter."
  | missingPattern => "RegularExpressionValidator requires a 'pattern' parameter."
  | malformedPattern source description =>
    s!"Invalid pattern {Text.quoted source}: {description}"
  | missingFilter => "FilterValidator requires a callable 'filter' parameter."
  | duplicateField name => s!"Duplicate field '{name}' in record schema."
  | notATable shown =>
    s!"Cannot build a record schema from {shown}: expected a Table or mapped class."

/-- A fault. -/
inductive Fault
  /-- A malformed declaration, with the rule it was found in. -/
  | declaration (problem : DeclarationProblem) (rule : Value)
  /-- A record was to be validated in a scenario nobody declared. -/
  | unknownScenario (scenario : Value) (known : List Value)
  /-- A record was asked for an attribute it does not have. -/
  | unknownAttribute (name : Value) (recordType : String)
  /-- The parts of a field have the wrong types. -/
  | malformedField (details : List Detail)
  /-- A script stopped with an exception of its own. -/
  | raised (message : String)
  /-- The library that describes tables is not installed. -/
  | missingTables
  | misuse (cause : Misuse)
  /-- Something was asked of a value that it does not offer. -/
  | notOffered
  /-- A value of the right type that makes no sense. -/
  | badValue
  /-- A number too large for its format. -/
  | overflow
  /-- Validations of one record inside each other beyond any depth. -/
  | tooDeep

instance : Inhabited Fault := ⟨.notOffered⟩

/-- The wording of a fault; empty for those that have none. -/
def Fault.message : Fault → String
  | declaration problem _ => problem.message
  | unknownScenario scenario known =>
    s!"Unknown scenario: '{scenario.toText}'. Known scenarios: {(Value.list known).shown}."
  | unknownAttribute name recordType => s!"'{recordType}' has no attribute '{name.toText}'."
  | raised message => message
  | missingTables =>
    "SQLAlchemy is required for schema_from_sqlalchemy(). Install it with: "
      ++ "pip install \"modelrules[sqlalchemy]\""
  | misuse cause => cause.message
  | _ => ""

/-- A result that may be a fault. -/
abbrev Outcome := Except Fault

/-- A fault without a wording that anybody asks for. -/
def Fault.unsupported : Fault := .misuse .unsupported

end RecordValidation
