import RecordValidation.Validator.Construction

/-!
# Registries

A registry knows kinds of validators by the aliases that rules use for them. An alias can be given
to another kind or taken away at any time.
-/

namespace RecordValidation

/-- Kinds of validators by alias. -/
structure Registry where
  aliases : OrderedMap String CheckKind

namespace Registry

/-- The registry of the kinds that are always offered. -/
def builtin : Registry where
  aliases := .ofList [
    ("required", .required), ("safe", .safe), ("string", .string), ("number", .number),
    ("integer", .integer), ("boolean", .boolean), ("compare", .compare), ("in", .range),
    ("match", .pattern), ("default", .default), ("filter", .filter)]

instance : Inhabited Registry := ⟨builtin⟩

/-- The registry with an alias given to a kind. -/
def register (registry : Registry) (name : String) (kind : CheckKind) : Registry :=
  ⟨registry.aliases.insert name kind⟩

/-- The registry without an alias. -/
def unregister (registry : Registry) (name : String) : Registry := ⟨registry.aliases.erase name⟩

/-- The kind of an alias. -/
def get? (registry : Registry) (name : String) : Option CheckKind := registry.aliases.get? name

/-- All aliases in the order of their characters. -/
def names (registry : Registry) : List String :=
  registry.aliases.keys.mergeSort fun a b => a ≤ b

/-- What is wrong with an alias that is not registered. -/
def unknownAlias (registry : Registry) (name : String) : DeclarationProblem :=
  .unknownAlias name (registry.names.map .text)

/-- What is given by place where a validator is made by alias. -/
def givenByPlace : List String := ["cls", "name", "attributes"]

/-- A validator of the kind of an alias. -/
def create (registry : Registry) (name : String) (attributes : Value) (arguments : Arguments) :
    Outcome Validator :=
  if arguments.any fun argument => givenByPlace.contains argument.1 then .error .unsupported
  else
    match registry.get? name with
    | some kind => construct kind attributes arguments
    | none => .error (.declaration (registry.unknownAlias name) .null)

/-- A registered alias is found. -/
@[simp] theorem get?_register (registry : Registry) (name other : String) (kind : CheckKind) :
    (registry.register name kind).get? other =
      if other = name then some kind else registry.get? other := by
  simp [register, get?, OrderedMap.get?_insert]

/-- An alias taken away is not found. -/
@[simp] theorem get?_unregister (registry : Registry) (name other : String) :
    (registry.unregister name).get? other =
      if other = name then none else registry.get? other := by
  simp [unregister, get?, OrderedMap.get?_erase]

end Registry

end RecordValidation
