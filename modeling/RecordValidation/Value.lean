import RecordValidation.Number.Binary64
import RecordValidation.Pattern
import RecordValidation.Rule.Shape
import RecordValidation.Script.Shape

/-!
# Values

Records hold values, rules are declared by values, and validators are set up with values. There is
one type for all of them: plain data, and the things a declaration may mention beside plain data,
namely patterns, scripts, kinds of checks, ready validators, rules and methods of a record.
-/

namespace RecordValidation

/-- A value. -/
inductive Value
  | null
  | bool (value : Bool)
  | int (value : Int)
  | float (value : Binary64)
  | text (value : String)
  | list (items : List Value)
  /-- A fixed sequence, unequal to every list. -/
  | tuple (items : List Value)
  /-- Entries in the order in which their keys came, with no key twice. -/
  | map (entries : List (Value × Value))
  | pattern (pattern : Pattern)
  | script (script : ScriptOf Value)
  | kind (kind : CheckKind)
  | validator (validator : ValidatorOf Value)
  | rule (rule : RuleOf Value)
  /-- A method of the record that owns the rules, by its name. -/
  | method (name : String)

instance : Inhabited Value := ⟨.null⟩

/-- A rule over values. -/
abbrev Rule := RuleOf Value

/-- A check over values. -/
abbrev Check := CheckOf Value

/-- A validator over values. -/
abbrev Validator := ValidatorOf Value

/-- An action over values. -/
abbrev Action := ActionOf Value

/-- A script over values. -/
abbrev Script := ScriptOf Value

instance : Coe String Value := ⟨.text⟩

namespace Value

/-- What the type of a value is called. -/
def typeName : Value → String
  | null => "NoneType"
  | bool _ => "bool"
  | int _ => "int"
  | float _ => "float"
  | text _ => "str"
  | list _ => "list"
  | tuple _ => "tuple"
  | map _ => "dict"
  | pattern _ => "Pattern"
  | script _ => "function"
  | kind _ => "ABCMeta"
  | validator ready => ready.check.kind.name
  | rule _ => "RuleSpec"
  | method _ => "method"

/-- What the type of a value is called where it is refused. -/
def refusedTypeName : Value → String
  | pattern _ => "re.Pattern"
  | value => value.typeName

/-- Whether a value counts as true: absent values, zeros and empty collections do not. -/
def truthy : Value → Bool
  | null => false
  | bool value => value
  | int value => value != 0
  | float (.finite _ significand _) => significand != 0
  | text value => value != ""
  | list items => !items.isEmpty
  | tuple items => !items.isEmpty
  | map entries => !entries.isEmpty
  | _ => true

/-- Whether a value is absent. -/
def isNull : Value → Bool
  | null => true
  | _ => false

/-- Whether a value can be called. -/
def isCallable : Value → Bool
  | script _ | kind _ | method _ => true
  | _ => false

/-- The text that a value is, if it is one. -/
def text? : Value → Option String
  | text value => some value
  | _ => none

/-- The default in place of a value that does not count as true. -/
def orDefault (value : Value) (default : String) : Value :=
  if value.truthy then value else text default

/-- What a number or truth value stands for in a comparison. -/
def quantity? : Value → Option Quantity
  | bool value => some (Quantity.ofInt (if value then 1 else 0))
  | int value => some (Quantity.ofInt value)
  | float value => some value.quantity
  | _ => none

/-- The parts of a rule with their names. -/
def partsOfRule (parts : RuleOf Value) : List Value := [
  tuple [text "attributes", parts.attributes], tuple [text "validator", parts.validator],
  tuple [text "on", parts.on], tuple [text "except_", parts.except],
  tuple [text "params", map parts.params]]

/-- The items of a value that can be gone through: the characters of a text, the items of a list or
tuple, the keys of a map, the parts of a rule. -/
def items? : Value → Option (List Value)
  | text value => some (value.toList.map fun c => text (String.singleton c))
  | list items => some items
  | tuple items => some items
  | map entries => some (entries.map Prod.fst)
  | rule parts => some (partsOfRule parts)
  | _ => none

/-- Whether a value is empty: absent, a text without characters, or a list or map without items. A
tuple is never empty. -/
def isEmpty : Value → Bool
  | null => true
  | text value => value == ""
  | list items => items.isEmpty
  | map entries => entries.isEmpty
  | _ => false

/-- How many items a value has. -/
def length? : Value → Option Nat
  | text value => some value.length
  | list items => some items.length
  | tuple items => some items.length
  | map entries => some entries.length
  | _ => none

end Value

end RecordValidation
