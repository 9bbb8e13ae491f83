import RecordValidation.ErrorBag

/-!
# Events

What can be observed while a record is worked on: messages of the library about its work, notes left
by scripts, and notices about attempts to write an unsafe attribute.
-/

namespace RecordValidation

/-- Something observed. -/
inductive Event
  /-- Rules were compiled for a record of a type, or for none. -/
  | compiled (count : Nat) (owner : Option String)
  /-- A validation was called off before any check. -/
  | cancelled (recordType : String)
  /-- A validation ended with errors for so many attributes. -/
  | validated (recordType : String) (scenario : Value) (failing : Nat)
  /-- An unsafe attribute was not written. -/
  | rejected (recordType : String) (name : Value)
  /-- A script left a note. -/
  | note (text : Value)
  /-- A script noted all errors. -/
  | errors (entries : List (Value × List Value))
  /-- An observer was told that an unsafe attribute was not written. -/
  | notice (recordType : String) (name value : Value)

/-- The wording of a rejected write. -/
def rejectionMessage (recordType : String) (name : Value) : String :=
  s!"Failed to set unsafe attribute '{name.toText}' in '{recordType}'."

/-- The wording of an event; empty for those that are not worded. -/
def Event.message : Event → String
  | .compiled count owner =>
    let ownerName := owner.getD "<no owner>"
    s!"Compiled {count} validator(s) for {ownerName}"
  | .cancelled recordType => s!"Validation of {recordType} cancelled by a pre-validation hook"
  | .validated recordType scenario failing =>
    let verdict := if failing = 0 then "ok" else s!"{failing} attribute(s) with errors"
    s!"Validated {recordType} in scenario '{scenario.toText}': {verdict}"
  | .rejected recordType name => rejectionMessage recordType name
  | .notice recordType name _ => rejectionMessage recordType name
  | _ => ""

end RecordValidation
