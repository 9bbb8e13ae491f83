import RecordValidation.Check.Complaint
import RecordValidation.Value.Agreement

/-!
# Checks for membership and format

A value has to agree with one of some members, or with none of them if the check is inverted. Where
lists are allowed, a list or tuple is found if each of its items is.
-/

namespace RecordValidation

/-- Whether a value agrees with one of some members. -/
def isAmong (members : List Value) (strict : Bool) (value : Value) : Bool :=
  members.any (Value.agrees strict value)

/-- Whether a value, or each item of it, agrees with one of some members. -/
def isFound (members : List Value) (strict allowList : Bool) (value : Value) : Bool :=
  match allowList, value with
  | true, .list items | true, .tuple items => items.all (isAmong members strict)
  | _, value => isAmong members strict value

/-- The complaint of a check for what is found, which may be inverted. -/
def complaintUnless (found : Bool) (inverted message : Value) : Option Complaint :=
  if (Value.bool found).equals inverted then
    some ⟨message.orDefault "\x7battribute\x7d is invalid.", []⟩
  else none

/-- The complaint about a value that is not among the members, or is if the check is inverted. -/
def membershipComplaint? (members : List Value) (strict inverted allowList message value : Value) :
    Option Complaint :=
  complaintUnless (isFound members strict.truthy allowList.truthy value) inverted message

/-- The complaint about a value that is no text in which the pattern occurs, or, if the check is
inverted, no text in which it does not. -/
def formatComplaint? (pattern inverted message value : Value) : Outcome (Option Complaint) :=
  match value, pattern with
  | .text s, .pattern p => .ok (complaintUnless (p.occursIn s) inverted message)
  | .text _, _ => .error .notOffered
  | _, _ => .ok (some ⟨message.orDefault "\x7battribute\x7d is invalid.", []⟩)

end RecordValidation
