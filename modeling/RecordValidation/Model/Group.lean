import RecordValidation.Model.Validation

/-!
# Groups of models

Models can be loaded and validated together. A group keeps its models by index; work on one model is
observed by the group. Data for a group comes in rows, a row for each model, as a sequence or by
index as a number or a text.
-/

namespace RecordValidation

/-- Models worked on together, with what was observed so far. -/
structure Group where
  sessions : List (Session Model)
  events : List Event

namespace Group

/-- Work on a group, which may stop with a fault. -/
abbrev Work := EStateM Fault Group

/-- The group after work on one of its models. -/
def record (group : Group) (index : Nat) (session : Session Model) : Group where
  sessions := group.sessions.set index { session with events := [] }
  events := group.events ++ session.events

/-- Work on one model of the group. -/
def on {α : Type} (index : Nat) (act : Act Model α) : Work α := fun group =>
  match group.sessions[index]? with
  | none => .error .badValue group
  | some session =>
    match act.run session with
    | .ok answer session => .ok answer (group.record index session)
    | .error fault session => .error fault (group.record index session)

/-- Add a model to the group, as it came out of its making. -/
def add (made : EStateM.Result Fault (Session Model) Unit) : Work Unit := fun group =>
  match made with
  | .ok () session => .ok () {
      sessions := group.sessions ++ [{ session with events := [] }]
      events := group.events ++ session.events }
  | .error fault session => .error fault { group with events := group.events ++ session.events }

/-- The row of a model among some rows; absent if there is none. -/
def row (rows : Value) (index : Nat) : Value :=
  match rows with
  | .map entries =>
    let byNumber := (entries.lookup (.int index)).getD .null
    if byNumber.isNull then (entries.lookup (.text (toString index))).getD .null else byNumber
  | .list items | .tuple items => (items[index]?).getD .null
  | _ => .null

/-- The rows under a name in the data of a form. -/
def rowsOf (formName data : Value) : Outcome Value :=
  if formName.equals (.text "") then .ok data
  else do
    let entries ← data.entries
    return (entries.lookup (← formName.asName)).getD .null

/-- Load a row into each of some models; whether there was a row for any. -/
def loadRows (rows : Value) : List (Nat × Nat) → Work Bool
  | [] => return false
  | (index, position) :: rest => do
    let own := row rows position
    if own.truthy then
      let _ ← on index (Model.load own (.text ""))
      let _ ← loadRows rows rest
      return true
    else loadRows rows rest

/-- Load the data of a form into models. Without a name to look under, the first model's is used. -/
def load (indices : List Nat) (data formName : Value) : Work Bool := do
  match indices with
  | [] => return false
  | first :: _ =>
    let formName ←
      if formName.isNull then
        on first ((fun model => model.type.formNameOrOwn) <$> Act.record)
      else pure formName
    match rowsOf formName data with
    | .error fault => throw fault
    | .ok rows => loadRows rows indices.zipIdx

/-- Validate models one after the other; whether all are valid. -/
def validateEach (names : Value) : List Nat → Work Bool
  | [] => return true
  | index :: rest => do
    let valid ← on index (Model.validate names (.bool true))
    let others ← validateEach names rest
    return valid && others

/-- Validate the named attributes of models, or the active ones if none are named; whether all are
valid. -/
def validate (indices : List Nat) (names : Value) : Work Bool := do
  if names.isNull then validateEach .null indices
  else
    match names.items with
    | .error fault => throw fault
    | .ok names => validateEach (.list names) indices

end Group

end RecordValidation
