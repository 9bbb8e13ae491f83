import RecordValidation.Value.Names

/-!
# Arguments of validators

A validator is built from attributes and named arguments. Every kind takes the common options, and
its own parameters beside them. The record and the attributes cannot be given again by name, an
inline check needs its method, and no argument may be left over.

`Arguments.fitting` says which complaint comes first: kinds with parameters of their own notice a
repeated argument before a missing one, and either before one left over; kinds without take the
arguments as they come.
-/

namespace RecordValidation

/-- Named arguments in order. -/
abbrev Arguments := List (String × Value)

namespace CheckKind

/-- The parameters a kind has of its own. -/
def ownParameters : CheckKind → List String
  | required => ["required_value", "strict"]
  | string => ["length", "min", "max", "too_short", "too_long", "not_equal"]
  | number | integer => ["integer_only", "min", "max", "too_small", "too_big"]
  | boolean => ["true_value", "false_value", "strict"]
  | compare => ["compare_attribute", "compare_value", "operator", "type"]
  | range => ["range", "strict", "not_", "allow_array"]
  | pattern => ["pattern", "not_"]
  | default => ["value"]
  | filter => ["filter", "skip_on_array"]
  | inline => ["method", "params", "bound"]
  | safe | alwaysFails | abstract => []

/-- The parameters of a kind that may be given without a name, after the attributes. -/
def positionalParameters : CheckKind → List String
  | integer => []
  | kind => kind.ownParameters

/-- Whether a kind reads its arguments itself before it hands on those it does not know. -/
def readsArguments : CheckKind → Bool
  | safe | alwaysFails | abstract => false
  | _ => true

end CheckKind

namespace Arguments

/-- The options every validator takes. -/
def commonOptions : List String :=
  ["on", "except_", "message", "skip_on_error", "skip_on_empty", "when", "is_empty"]

/-- What is given by place and not by name. -/
def givenByPlace : List String := ["self", "attributes"]

/-- The names a kind knows. -/
def known (kind : CheckKind) : List String := kind.ownParameters ++ commonOptions

/-- The complaint about an argument, if nobody reads it first. -/
def misuseOf? (kind : CheckKind) (name : String) : Option Misuse :=
  if givenByPlace.contains name then some (.repeatedArgument CheckKind.abstract.name name)
  else if (known kind).contains name then none
  else some (.unexpectedArgument CheckKind.abstract.name name)

/-- The first complaint about arguments that a kind reads itself. -/
def ownMisuse? (kind : CheckKind) (names : List String) : Option Misuse :=
  match names.find? givenByPlace.contains with
  | some name => some (.repeatedArgument kind.name name)
  | none =>
    if kind == .inline && !names.contains "method" then
      some (.missingArgument kind.name "method")
    else none

/-- The first complaint about the names of arguments. -/
def misuse? (kind : CheckKind) (names : List String) : Option Misuse :=
  if kind == .abstract then some .abstractKind
  else if kind.readsArguments then
    (ownMisuse? kind names).or (names.findSome? (misuseOf? kind))
  else names.findSome? (misuseOf? kind)

/-- The same arguments, provided that they fit the kind. -/
def fitting (kind : CheckKind) (arguments : Arguments) : Outcome Arguments :=
  match misuse? kind (arguments.map Prod.fst) with
  | some misuse => .error (.misuse misuse)
  | none => .ok arguments

/-- The value of an argument, or what it is if it is not given. -/
def valueOf (arguments : Arguments) (name : String) (absent : Value) : Value :=
  (arguments.lookup name).getD absent

end Arguments

end RecordValidation
