import RecordValidation.Registry
import RecordValidation.Rule.Declaration
import RecordValidation.Session.Event

/-!
# Compiling rules

A list of declared rules becomes a list of validators, one for each rule and in the same order; a
validator that stands among the rules is taken as it is. The validator of a rule is, in this order,
a method of the record that owns the rules, the kind of a registered alias, a kind given directly,
or a function that is called by an inline check.

Arguments that do not fit are reported together with the rule they were declared in. Other problems
of a kind with its settings are reported as the kind words them.
-/

namespace RecordValidation

/-- What rules may ask of the record that owns them. -/
structure Owner where
  /-- What the type of the record is called. -/
  typeName : String
  /-- Whether the record has a method of a name. -/
  hasMethod : String → Bool

namespace Compilation

/-- A misuse as a problem of the arguments in a declared rule; other faults as they are. -/
def inRule (kind : Option CheckKind) (declared : Value) : Fault → Fault
  | .misuse cause => .declaration (.badParameters kind cause) declared
  | fault => fault

/-- The name of an argument. -/
def argumentName : Value → Outcome String
  | .text name => .ok name
  | _ => .error .unsupported

/-- The parameters of a rule added to the arguments that the rule fixes itself; none may be given
twice. -/
def withParams (kind : CheckKind) (fixed : Arguments) (params : List (Value × Value)) :
    Outcome Arguments := do
  let params ← params.mapM fun entry => do return (← argumentName entry.1, entry.2)
  match params.find? fun entry => (fixed.map Prod.fst).contains entry.1 with
  | some entry => throw (.misuse (.repeatedKeyword kind.qualifiedName entry.1))
  | none => return fixed ++ params

/-- A validator of a kind for a rule, with arguments that come before those of the rule. -/
def instantiate (kind : CheckKind) (rule : Rule) (before : Arguments) : Outcome Validator := do
  let attributes ← rule.attributes.items
  let on ← rule.on.items
  let except ← rule.except.items
  let scenarios := [("on", Value.list on), ("except_", Value.list except)]
  construct kind (.list attributes) (← withParams kind (before ++ scenarios) rule.params)

/-- A validator of a kind for a declared rule. -/
def ofKind (declared : Value) (kind : CheckKind) (rule : Rule) : Outcome Validator :=
  (instantiate kind rule []).mapError (inRule (some kind) declared)

/-- An inline check for a declared rule. -/
def ofMethod (declared method : Value) (bound : Bool) (rule : Rule) : Outcome Validator :=
  (instantiate .inline rule [("method", method), ("bound", .bool bound)]).mapError
    (inRule none declared)

/-- The validator of a rule. -/
def ofRule (registry : Registry) (owner : Option Owner) (declared : Value) (rule : Rule) :
    Outcome Validator :=
  match rule.validator with
  | .text name =>
    if owner.any (·.hasMethod name) then ofMethod declared (.method name) true rule
    else
      match registry.get? name with
      | some kind => ofKind declared kind rule
      | none => .error (.declaration (registry.unknownAlias name) declared)
  | .kind kind => ofKind declared kind rule
  | function =>
    if function.isCallable then ofMethod declared function false rule
    else .error (.declaration (.notAValidator function) declared)

/-- The validator of a declared rule. -/
def ofDeclaration (registry : Registry) (owner : Option Owner) (declared : Value) :
    Outcome Validator :=
  match declared with
  | .validator ready => .ok ready
  | _ => do ofRule registry owner declared (← Rule.ofDeclaration declared)

end Compilation

/-- The validators of declared rules. -/
def compile (registry : Registry) (owner : Option Owner) (declared : List Value) :
    Outcome (List Validator) :=
  declared.mapM (Compilation.ofDeclaration registry owner)

/-- The event that so many validators were compiled. -/
def compiledEvent (owner : Option Owner) (validators : List Validator) : Event :=
  .compiled validators.length (owner.map Owner.typeName)

end RecordValidation
