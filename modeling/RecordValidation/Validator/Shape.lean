import RecordValidation.Check.Kind
import RecordValidation.Check.Relation

/-!
# The shape of validators

A validator has the names it covers, the scenarios it is limited to, options common to all kinds,
and a check with the settings of its kind. The shapes are open in the type of values, because a
value may in turn be a validator.

Settings keep the values they were given: most are only looked at when the check runs.
-/

namespace RecordValidation

/-- Settings of a check on the length of a text. -/
structure LengthSettingsOf (α : Type) where
  /-- The only length allowed. -/
  length : α
  least : α
  most : α
  tooShort : α
  tooLong : α
  wrongLength : α

/-- Settings of a check on a number. -/
structure NumberSettingsOf (α : Type) where
  integerOnly : α
  least : α
  most : α
  tooSmall : α
  tooBig : α

/-- A check with its settings. -/
inductive CheckOf (α : Type)
  /-- The value is not empty, or equals a wanted value. -/
  | required (wanted strict : α)
  /-- No check; the names are only marked as safe. -/
  | safe
  | string (settings : LengthSettingsOf α)
  | number (settings : NumberSettingsOf α)
  | integer (settings : NumberSettingsOf α)
  /-- The value is one of two. -/
  | boolean (trueValue falseValue strict : α)
  /-- The value relates to a constant or to another attribute. -/
  | compare (target constant : α) (relation : Relation) (comparedAs : ComparedAs)
  /-- The value is one of some values, or none of them. -/
  | range (members : List α) (strict inverted allowList : α)
  /-- The value is a text in which a pattern occurs, or does not. -/
  | pattern (pattern inverted : α)
  /-- An empty value is replaced. -/
  | default (value : α)
  /-- The value is replaced by what a function makes of it. -/
  | filter (function skipList : α)
  /-- A function or a method of the record gives the complaints. -/
  | inline (method params bound : α)
  | alwaysFails

/-- A validator. -/
structure ValidatorOf (α : Type) where
  /-- The attributes covered; a leading mark makes one unsafe. -/
  attributes : List α
  /-- The only scenarios in which the validator is active, if there are any. -/
  on : List α
  /-- The scenarios in which it is inactive, if `on` is empty. -/
  except : List α
  /-- A template that replaces the check's own. -/
  message : α
  /-- Leave out attributes that have errors already. -/
  skipOnError : α
  /-- Leave out attributes whose value is empty. -/
  skipOnEmpty : α
  /-- A function that decides for each attribute whether it is checked. -/
  guard : α
  /-- A function that decides what is empty. -/
  emptiness : α
  check : CheckOf α

/-- The kind of a check. -/
def CheckOf.kind {α : Type} : CheckOf α → CheckKind
  | .required .. => .required
  | .safe => .safe
  | .string .. => .string
  | .number .. => .number
  | .integer .. => .integer
  | .boolean .. => .boolean
  | .compare .. => .compare
  | .range .. => .range
  | .pattern .. => .pattern
  | .default .. => .default
  | .filter .. => .filter
  | .inline .. => .inline
  | .alwaysFails => .alwaysFails

end RecordValidation
