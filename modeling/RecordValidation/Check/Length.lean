import RecordValidation.Check.Bound
import RecordValidation.Check.Complaint

/-!
# Checks on the length of a text

The value has to be a text. Its length in characters is compared with a least length, a most length
and an only length, in this order, and the first that fails gives the complaint.
-/

namespace RecordValidation

/-- Settings of a check on the length of a text. -/
abbrev LengthSettings := LengthSettingsOf Value

namespace LengthSettings

/-- The complaint about the length of a text, if there is one. -/
def complaintOnSize (settings : LengthSettings) (size : Nat) : Outcome (Option Complaint) := do
  if ← (Quantity.ofInt size).isUnder settings.least then
    return some ⟨settings.tooShort, [("min", settings.least)]⟩
  if ← (Quantity.ofInt size).isOver settings.most then
    return some ⟨settings.tooLong, [("max", settings.most)]⟩
  if !settings.length.isNull && !(Value.int size).equals settings.length then
    return some ⟨settings.wrongLength, [("length", settings.length)]⟩
  return none

/-- The complaint about a value, if there is one; `message` replaces the one about a value that is
no text. -/
def complaint? (settings : LengthSettings) (message value : Value) : Outcome (Option Complaint) :=
  match value with
  | .text s => settings.complaintOnSize s.length
  | _ => .ok (some ⟨message.orDefault "\x7battribute\x7d must be a string.", []⟩)

end LengthSettings

end RecordValidation
