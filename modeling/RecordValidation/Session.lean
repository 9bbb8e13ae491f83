import RecordValidation.Session.Event

/-!
# Sessions

A session is a record being worked on, with its errors and what was observed so far. Work on a
session may stop with a fault; what was done until then stays done.

`Host` is what the library asks of a record: to read and to write attributes, and what else scripts
and checks may ask for. Plain records and models offer it in their own ways.
-/

namespace RecordValidation

/-- A record being worked on. -/
structure Session (ρ : Type) where
  record : ρ
  errors : ErrorBag
  events : List Event

/-- Work on a session, which may stop with a fault. -/
abbrev Act (ρ : Type) := EStateM Fault (Session ρ)

namespace Act

variable {ρ α : Type}

/-- The result of something that does not touch the session. -/
def ofOutcome : Outcome α → Act ρ α
  | .ok value => pure value
  | .error fault => throw fault

/-- A result that is there is given, and the session stays as it is. -/
@[simp] theorem run_ofOutcome_ok (value : α) (session : Session ρ) :
    (ofOutcome (.ok value) : Act ρ α).run session = .ok value session := rfl

/-- The record as it is now. -/
def record : Act ρ ρ := return (← get).record

/-- The errors as they are now. -/
def errors : Act ρ ErrorBag := return (← get).errors

/-- Change the record. -/
def setRecord (record : ρ) : Act ρ Unit := modify fun session => { session with record }

/-- Change the errors. -/
def modifyErrors (change : ErrorBag → ErrorBag) : Act ρ Unit :=
  modify fun session => { session with errors := change session.errors }

/-- Observe something. -/
def observe (event : Event) : Act ρ Unit :=
  modify fun session => { session with events := session.events ++ [event] }

/-- Add a message for an attribute. -/
def addError (name message : Value) : Act ρ Unit := do
  let name ← ofOutcome name.asName
  modifyErrors (·.add name message)

/-- Clear the errors of an attribute, or all if none is named. -/
def clearErrors (name : Value) : Act ρ Unit := do
  if name.isNull then modifyErrors fun _ => .empty
  else
    let name ← ofOutcome name.asName
    modifyErrors (·.clear name)

end Act

/-- What is asked of a record. -/
structure Host (ρ : Type) where
  /-- What the type of the record is called. -/
  typeName : String
  /-- The value of an attribute. -/
  read : ρ → Value → Outcome Value
  /-- The record with a value written to an attribute. -/
  write : ρ → Value → Value → Outcome ρ
  /-- The label of an attribute, if the record has labels. -/
  label? : Option (ρ → Value → Outcome Value)
  /-- Whether scripts may ask the record for its errors. -/
  knowsErrors : Bool
  /-- The record as a sequence, if it can be gone through. -/
  asSequence : ρ → Outcome Value
  /-- Call a method of the record with an attribute and parameters. -/
  invoke : String → Value → Value → Act ρ Value
  /-- Perform an action of a script. -/
  perform : Action → Act ρ Unit

namespace Host

variable {ρ : Type}

/-- Read an attribute of the record as it is now. -/
def get (host : Host ρ) (name : Value) : Act ρ Value := do
  Act.ofOutcome (host.read (← Act.record) name)

/-- Write an attribute of the record. -/
def set (host : Host ρ) (name value : Value) : Act ρ Unit := do
  Act.setRecord (← Act.ofOutcome (host.write (← Act.record) name value))

/-- How an attribute is called in messages: by its label, or by its name if the record has none. -/
def labelOf (host : Host ρ) (name : Value) : Act ρ Value := do
  match host.label? with
  | some label => Act.ofOutcome (label (← Act.record) name)
  | none => return name

end Host

/-- A record without a schema: any attribute can be read and written, and one never written is
absent. It may come with labels. -/
structure PlainRecord where
  values : Value.Table Value
  labels : Option (Value.Table Value)

namespace PlainRecord

/-- What the type of a plain record is called. -/
def typeName (record : PlainRecord) : String :=
  if record.labels.isSome then "LabelledRecord" else "PlainRecord"

/-- The value of an attribute. -/
def read (record : PlainRecord) (name : Value) : Outcome Value := do
  return (record.values.get? (← name.asName)).getD .null

/-- The record with a value written to an attribute. -/
def write (record : PlainRecord) (name value : Value) : Outcome PlainRecord := do
  return { record with values := record.values.insert (← name.asName) value }

/-- A value written is read again, and the other attributes keep theirs. -/
theorem read_write {record written : PlainRecord} {name value : Value} (other : Value)
    (done : record.write name value = .ok written) (named : other.unhashablePart? = none) :
    written.read other = if other == name then .ok value else record.read other := by
  have result : written = { record with values := record.values.insert name value } := by
    simp only [write, Value.asName] at done
    split at done
    · exact (Except.ok.inj done).symm
    · exact absurd done (by simp [bind, Except.bind])
  subst result
  simp only [read, Value.asName, named, bind, Except.bind, pure, Except.pure,
    OrderedMap.get?_insert]
  split <;> rfl

/-- The label of an attribute. -/
def label (record : PlainRecord) (name : Value) : Outcome Value := do
  return ((record.labels.getD .empty).get? (← name.asName)).getD name

/-- Perform an action of a script: plain records can be written, and scripts may leave notes and
stop. -/
def perform : Action → Act PlainRecord Unit
  | .set name value => do
    Act.setRecord (← Act.ofOutcome ((← Act.record).write name value))
  | .note text => Act.observe (.note text)
  | .raise message => throw (.raised message.toText)
  | _ => throw .notOffered

/-- What a plain record offers. -/
def host (record : PlainRecord) : Host PlainRecord where
  typeName := record.typeName
  read := read
  write := write
  label? := if record.labels.isSome then some label else none
  knowsErrors := false
  asSequence _ := .error .unsupported
  invoke _ _ _ := throw .unsupported
  perform := perform

end PlainRecord

end RecordValidation
