import RecordValidation.Check.Amount
import RecordValidation.Check.Comparison
import RecordValidation.Check.Inline
import RecordValidation.Check.Length
import RecordValidation.Check.Membership
import RecordValidation.Check.Presence
import RecordValidation.Check.Transform

/-!
# What a validator says about an attribute

`ValidatorOf.verdict` runs the check of a validator on one attribute of a record, whatever its
conditions, and answers with the messages. The checks that only look at the value give at most one
complaint, `valueComplaint?`, which is worded with the label of the attribute.
-/

namespace RecordValidation

/-- What a value is compared with, and how that is shown. -/
structure Target where
  value : Value
  shown : Value

/-- The target of a comparison: a constant if there is one, else another attribute, by default the
one named like the attribute with `_repeat` after it. -/
def Target.find {ρ : Type} (host : Host ρ) (other constant name : Value) : Act ρ Target :=
  if constant.isNull then do
    let other := other.orDefault (name.toText ++ "_repeat")
    let value ← host.get other
    return { value, shown := ← host.labelOf other }
  else return { value := constant, shown := constant }

namespace ValidatorOf

/-- The complaint of a check that only looks at the value; none for the other checks. -/
def valueComplaint? (validator : Validator) (value : Value) : Outcome (Option Complaint) :=
  match validator.check with
  | .required wanted strict =>
    presenceComplaint? validator.countsAsEmpty wanted strict validator.message value
  | .string settings => LengthSettings.complaint? settings validator.message value
  | .number settings | .integer settings =>
    NumberSettings.complaint? settings validator.message value
  | .boolean trueValue falseValue strict =>
    .ok (choiceComplaint? trueValue falseValue strict validator.message value)
  | .range members strict inverted allowList =>
    .ok (membershipComplaint? members strict inverted allowList validator.message value)
  | .pattern pattern inverted => formatComplaint? pattern inverted validator.message value
  | _ => .ok none

/-- Complaints about an attribute, worded. -/
def word {ρ : Type} (host : Host ρ) (name : Value) (complaint : Option Complaint) :
    Act ρ (List Value) :=
  match complaint with
  | none => return []
  | some complaint => List.singleton <$> complaint.worded host name

/-- The messages of a validator about an attribute. -/
def verdict {ρ : Type} (host : Host ρ) (validator : Validator) (name : Value) :
    Act ρ (List Value) :=
  match validator.check with
  | .safe => return []
  | .alwaysFails => return ["nope"]
  | .compare other constant relation comparedAs => do
    let value ← host.get name
    let target ← Target.find host other constant name
    word host name
      (← Act.ofOutcome
        (relation.complaint? comparedAs validator.message value target.value target.shown))
  | .default default => do
    fillIn host validator default name
    return []
  | .filter function skipList => do
    transform host function skipList name
    return []
  | .inline method params bound => inlineComplaints host method params bound name
  | _ => do
    let value ← host.get name
    word host name (← Act.ofOutcome (validator.valueComplaint? value))

end ValidatorOf

end RecordValidation
