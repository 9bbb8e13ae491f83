import RecordValidation.Value.Names

/-!
# Declarations of rules

A rule is declared as a rule that is ready, as a map with the keys `attributes` and `validator`, or
as a sequence of attributes, validator and a map of parameters. The keys `on`, `except` and
`except_` among the parameters are not handed to the check: they limit the scenarios, `except`
before `except_`.

The attributes and both lists of scenarios may be given as a single text or as a list or tuple; they
are kept without repetitions. `Rule.complaints` lists what is wrong with the types of the parts, in
the order of the parts.
-/

namespace RecordValidation

namespace Rule

open Value (null text list tuple map)

/-- The parts of a rule as they were declared. -/
structure Parts where
  attributes : Value
  validator : Value
  on : Value
  except : Value
  params : Value.Table Value

/-- A list of names without repetitions, if the value is a name or a sequence of them. -/
def nameList? : Value → Option (List Value)
  | null => some []
  | text name => some [text name]
  | list names | tuple names => some (Value.distinct names)
  | .rule parts => some (Value.partsOfRule parts)
  | _ => none

/-- What is wrong with the types of names under a heading. -/
def nameComplaints (heading : String) (value : Value) : List Detail :=
  match nameList? value with
  | none => [⟨[heading], .notList⟩]
  | some names =>
    names.zipIdx.filterMap fun (name, index) =>
      if name.text?.isSome then none else some ⟨[heading, toString index], .notText⟩

/-- What is wrong with the type of a validator. -/
def validatorComplaints (value : Value) : List Detail :=
  if value.text?.isSome || value.isCallable then []
  else [⟨["validator", "str"], .notText⟩, ⟨["validator", "callable"], .notCallable⟩]

/-- The name of a parameter as a step of a location; a truth value counts as a number. -/
def paramStep : Value → String
  | .bool value => if value then "1" else "0"
  | value => value.toText

/-- What is wrong with the names of parameters. -/
def paramComplaints (params : Value.Table Value) : List Detail :=
  params.keys.filterMap fun name =>
    if name.text?.isSome then none else some ⟨["params", paramStep name, "[key]"], .notText⟩

/-- What is wrong with the types of the parts of a rule. -/
def complaints (parts : Parts) : List Detail :=
  nameComplaints "attributes" parts.attributes
    ++ validatorComplaints parts.validator
    ++ nameComplaints "on" parts.on
    ++ nameComplaints "except_" parts.except
    ++ paramComplaints parts.params

/-- A rule put together from parts of the right types. -/
def ofParts (declared : Value) (parts : Parts) : Outcome Rule :=
  match complaints parts with
  | [] => .ok {
      attributes := list ((nameList? parts.attributes).getD [])
      validator := parts.validator
      on := list ((nameList? parts.on).getD [])
      except := list ((nameList? parts.except).getD [])
      params := parts.params.entries }
  | details => .error (.declaration (.malformedRule details) declared)

/-- Whether a value can stand for a validator at all. -/
def namesValidator : Value → Bool
  | null => false
  | text name => name != ""
  | _ => true

/-- The parameters without those that limit scenarios, and what the latter say. -/
def splitParams (attributes validator : Value) (params : Value.Table Value) : Parts where
  attributes := attributes
  validator := validator
  on := (params.get? "on").getD null
  except :=
    let first := (params.get? "except").getD null
    if first.isNull then (params.get? "except_").getD null else first
  params := ((params.erase "on").erase "except").erase "except_"

/-- A rule from attributes, a validator and parameters. -/
def ofPieces (declared attributes validator : Value) (params : Value.Table Value) : Outcome Rule :=
  if attributes.truthy && namesValidator validator then
    ofParts declared (splitParams attributes validator params)
  else .error (.declaration .incompleteRule declared)

/-- A rule from a map. The parameters under `params` give way to those beside it. -/
def ofMap (declared : Value) (entries : Value.Table Value) : Outcome Rule := do
  let given := (entries.get? "params").getD null
  let params ← if given.truthy then given.toTable else pure .empty
  let beside := ((entries.erase "params").erase "attributes").erase "validator"
  let params := beside.entries.foldl (fun params entry => params.insert entry.1 entry.2) params
  ofPieces declared ((entries.get? "attributes").getD null)
    ((entries.get? "validator").getD null) params

/-- A rule from a sequence. -/
def ofSequence (declared : Value) : List Value → Outcome Rule
  | [attributes, validator] => ofPieces declared attributes validator .empty
  | [attributes, validator, map params] => ofPieces declared attributes validator ⟨params⟩
  | [_, _, _] => .error (.declaration .parametersNotMapping declared)
  | _ => .error (.declaration .incompleteRule declared)

/-- The rule that a value declares. -/
def ofDeclaration (declared : Value) : Outcome Rule :=
  match declared with
  | .rule ready => .ok ready
  | map entries => ofMap declared ⟨entries⟩
  | list items | tuple items => ofSequence declared items
  | other => .error (.declaration (.notARule other.typeName) declared)

/-- A rule from attributes, a validator, limits on scenarios and parameters given one by one. The
limits replace any parameters of the same names. -/
def declare (attributes validator on except : Value) (params : Value.Table Value) : Outcome Rule :=
  ofPieces (tuple [attributes, validator, map params.entries]) attributes validator
    ((params.insert "on" on).insert "except" except)

end Rule

end RecordValidation
