/-!
# Kinds of checks

Every validator is of one kind, which decides what it checks. `CheckKind.name` is what the kind is
called in messages, and `CheckKind.qualifiedName` how it is called where its module is named too.
-/

namespace RecordValidation

/-- The kinds of validators. -/
inductive CheckKind
  | required
  | safe
  | string
  | number
  | integer
  | boolean
  | compare
  | range
  | pattern
  | default
  | filter
  | inline
  /-- A kind that checks something on its own account and always complains. -/
  | alwaysFails
  /-- The kind all others extend; it has no check, so nothing can be built from it. -/
  | abstract
  deriving DecidableEq, Inhabited

namespace CheckKind

/-- All kinds. -/
def all : List CheckKind := [
  required, safe, string, number, integer, boolean, compare, range, pattern, default, filter,
  inline, alwaysFails, abstract]

/-- What a kind is called. -/
def name : CheckKind → String
  | required => "RequiredValidator"
  | safe => "SafeValidator"
  | string => "StringValidator"
  | number => "NumberValidator"
  | integer => "IntegerValidator"
  | boolean => "BooleanValidator"
  | compare => "CompareValidator"
  | range => "RangeValidator"
  | pattern => "RegularExpressionValidator"
  | default => "DefaultValueValidator"
  | filter => "FilterValidator"
  | inline => "InlineValidator"
  | alwaysFails => "AlwaysFails"
  | abstract => "Validator"

/-- The module a kind is called with. -/
def moduleName : CheckKind → String
  | abstract => "modelrules.validators.base"
  | inline => "modelrules.validators.inline"
  | alwaysFails => "__main__"
  | _ => "modelrules.validators.builtin"

/-- What a kind is called with its module. -/
def qualifiedName (kind : CheckKind) : String := s!"{kind.moduleName}.{kind.name}"

/-- The kind of a name. -/
def ofName? (name : String) : Option CheckKind := all.find? (·.name == name)

/-- A kind is found by its name. -/
theorem ofName?_name (kind : CheckKind) : ofName? kind.name = some kind := by
  cases kind <;> decide

end CheckKind

end RecordValidation
