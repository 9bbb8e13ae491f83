import RecordValidation.Check.Relation
import RecordValidation.Check.Complaint
import RecordValidation.Number.Numeral
import RecordValidation.Value.Agreement

/-!
# Comparisons

A value is compared with its target as text, character by character, or as a number. Values that are
no numbers stand in no relation at all, not even in being unequal; only an integer beyond the range
of numbers is a fault.
-/

namespace RecordValidation

namespace Value

/-- The number that a value is or writes, if there is one. -/
def asNumber : Value → Outcome (Option Binary64)
  | bool value => .ok (Binary64.ofInt? (if value then 1 else 0))
  | int value =>
    match Binary64.ofInt? value with
    | some number => .ok (some number)
    | none => .error .overflow
  | float value => .ok (some value)
  | text value => .ok (Numeral.readBinary64? value)
  | _ => .ok none

end Value

namespace Relation

/-- Whether the relation holds of two numbers. -/
def holdsOfNumbers (relation : Relation) (a b : Binary64) : Bool :=
  match a.quantity.compare? b.quantity with
  | some order => relation.holds order
  | none => relation.holdsUnordered

/-- Whether the relation holds of two values as numbers. The target is only looked at if the value
is a number. -/
def relatesNumbers (relation : Relation) (value target : Value) : Outcome Bool := do
  match ← value.asNumber with
  | none => return false
  | some a =>
    match ← target.asNumber with
    | none => return false
    | some b => return relation.holdsOfNumbers a b

/-- Whether the relation holds of two values as texts. -/
def relatesTexts (relation : Relation) (value target : Value) : Bool :=
  relation.holds (compare value.comparedText target.comparedText)

/-- Whether the relation holds of two values. -/
def relates (relation : Relation) (comparedAs : ComparedAs) (value target : Value) : Outcome Bool :=
  match comparedAs with
  | .number => relation.relatesNumbers value target
  | .string => .ok (relation.relatesTexts value target)

/-- The complaint about a value that does not compare with its target, which is shown as `shown`. -/
def complaint? (relation : Relation) (comparedAs : ComparedAs)
    (message value target shown : Value) : Outcome (Option Complaint) := do
  if ← relation.relates comparedAs value target then return none
  return some ⟨message.orDefault relation.complaint, [("compare_value_or_attribute", shown)]⟩

end Relation

end RecordValidation
