import RecordValidation.Validator.Arguments

/-!
# Building validators

`construct` builds a validator of a kind from attributes and named arguments. What is common to all
kinds is read first, then the settings of the kind, and the first thing that is wrong is the fault.

Most settings are kept as they are given. The exceptions are those that decide what the check is:
the bounds in a pair of lengths, the relation and the way of a comparison, the members of a set, a
pattern given as text and the function of a filter.
-/

namespace RecordValidation

open Value (null bool int text list tuple)

namespace CheckKind

/-- Whether validators of a kind leave out attributes that have errors, unless told otherwise. -/
def skipsOnError : CheckKind → Bool
  | default | filter => false
  | _ => true

/-- Whether validators of a kind leave out attributes that are empty, unless told otherwise. -/
def skipsOnEmpty : CheckKind → Bool
  | required | default | filter => false
  | _ => true

end CheckKind

namespace Arguments

/-- The length, least and most length that arguments give. A pair of lengths stands for the
bounds. -/
def lengths (arguments : Arguments) : Outcome (Value × Value × Value) :=
  match arguments.valueOf "length" null with
  | list [least, most] | tuple [least, most] => .ok (null, least, most)
  | list _ | tuple _ => .error (.declaration .badLength null)
  | length => .ok (length, arguments.valueOf "min" null, arguments.valueOf "max" null)

/-- A check on the length of a text. -/
def lengthCheck (arguments : Arguments) : Outcome Check := do
  let (length, least, most) ← arguments.lengths
  return .string {
    length, least, most
    tooShort := (arguments.valueOf "too_short" null).orDefault
      "\x7battribute\x7d should contain at least \x7bmin\x7d characters."
    tooLong := (arguments.valueOf "too_long" null).orDefault
      "\x7battribute\x7d should contain at most \x7bmax\x7d characters."
    wrongLength := (arguments.valueOf "not_equal" null).orDefault
      "\x7battribute\x7d should contain \x7blength\x7d characters." }

/-- The settings of a check on a number, where only integers are allowed unless told otherwise if
`integerOnly` is true. -/
def numberSettings (arguments : Arguments) (integerOnly : Bool) : NumberSettingsOf Value where
  integerOnly := arguments.valueOf "integer_only" (bool integerOnly)
  least := arguments.valueOf "min" null
  most := arguments.valueOf "max" null
  tooSmall := (arguments.valueOf "too_small" null).orDefault
    "\x7battribute\x7d must be no less than \x7bmin\x7d."
  tooBig := (arguments.valueOf "too_big" null).orDefault
    "\x7battribute\x7d must be no greater than \x7bmax\x7d."

/-- The relation that a value names. -/
def relationOf (given : Value) : Outcome Relation := do
  match (← given.asName).text?.bind Relation.ofSymbol? with
  | some relation => return relation
  | none => throw (.declaration (.unknownRelation given) null)

/-- The way to compare that a value names. -/
def comparedAsOf (given : Value) : Outcome ComparedAs :=
  if given == text ComparedAs.string.name then .ok .string
  else if given == text ComparedAs.number.name then .ok .number
  else .error (.declaration (.unknownComparison given) null)

/-- A comparison. -/
def comparisonCheck (arguments : Arguments) : Outcome Check := do
  let relation ← relationOf (arguments.valueOf "operator" "==")
  let comparedAs ← comparedAsOf (arguments.valueOf "type" "string")
  return .compare (arguments.valueOf "compare_attribute" null)
    (arguments.valueOf "compare_value" null) relation comparedAs

/-- A check against a fixed set. -/
def rangeCheck (arguments : Arguments) : Outcome Check :=
  match arguments.valueOf "range" null with
  | null => .error (.declaration .missingRange null)
  | range => do
    return .range (← range.items) (arguments.valueOf "strict" (bool false))
      (arguments.valueOf "not_" (bool false)) (arguments.valueOf "allow_array" (bool false))

/-- A pattern from its text. -/
def patternOf (source : String) : Outcome Value :=
  match Pattern.read source .none with
  | .ok pattern => .ok (.pattern pattern)
  | .error (.malformed problem position) =>
    .error (.declaration
      (.malformedPattern source (Pattern.describe source problem position)) null)
  | .error .countTooLarge => .error .overflow
  | .error .kindConflict => .error .badValue

/-- A check on the format of a text. -/
def formatCheck (arguments : Arguments) : Outcome Check := do
  let pattern ←
    match arguments.valueOf "pattern" null with
    | null => throw (.declaration .missingPattern null)
    | text source => patternOf source
    | other => pure other
  return .pattern pattern (arguments.valueOf "not_" (bool false))

/-- A filter. -/
def filterCheck (arguments : Arguments) : Outcome Check :=
  let function := arguments.valueOf "filter" null
  if function.isCallable then
    .ok (.filter function (arguments.valueOf "skip_on_array" (bool false)))
  else .error (.declaration .missingFilter null)

/-- The check of a kind with the settings that arguments give. -/
def check (arguments : Arguments) : CheckKind → Outcome Check
  | .required =>
    .ok (.required (arguments.valueOf "required_value" null)
      (arguments.valueOf "strict" (bool false)))
  | .safe => .ok .safe
  | .string => arguments.lengthCheck
  | .number => .ok (.number (arguments.numberSettings false))
  | .integer => .ok (.integer (arguments.numberSettings true))
  | .boolean =>
    .ok (.boolean (arguments.valueOf "true_value" "1") (arguments.valueOf "false_value" "0")
      (arguments.valueOf "strict" (bool false)))
  | .compare => arguments.comparisonCheck
  | .range => arguments.rangeCheck
  | .pattern => arguments.formatCheck
  | .default => .ok (.default (arguments.valueOf "value" null))
  | .filter => arguments.filterCheck
  | .inline =>
    .ok (.inline (arguments.valueOf "method" null) (arguments.valueOf "params" null)
      (arguments.valueOf "bound" (bool false)))
  | .alwaysFails => .ok .alwaysFails
  | .abstract => .error (.misuse .abstractKind)

/-- Whether attributes that are empty are left out. -/
def skipOnEmpty (arguments : Arguments) (kind : CheckKind) : Value :=
  match arguments.valueOf "skip_on_empty" null with
  | null => bool kind.skipsOnEmpty
  | given => given

end Arguments

/-- A validator of a kind for some attributes. -/
def construct (kind : CheckKind) (attributes : Value) (given : Arguments) : Outcome Validator := do
  let arguments ← given.fitting kind
  let attributes ← attributes.givenNames
  let on ← (arguments.valueOf "on" null).givenNames
  let except ← (arguments.valueOf "except_" null).givenNames
  let check ← arguments.check kind
  return {
    attributes, on, except, check
    message := arguments.valueOf "message" null
    skipOnError := arguments.valueOf "skip_on_error" (bool kind.skipsOnError)
    skipOnEmpty := arguments.skipOnEmpty kind
    guard := arguments.valueOf "when" null
    emptiness := arguments.valueOf "is_empty" null }

/-- A validator of a kind for some attributes, with arguments given by place. -/
def constructByPlace (kind : CheckKind) (attributes : Value) (given : List Value) :
    Outcome Validator :=
  if kind.positionalParameters.length < given.length then .error .unsupported
  else construct kind attributes (kind.positionalParameters.zip given)

end RecordValidation
