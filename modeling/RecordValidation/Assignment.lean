import RecordValidation.Session

/-!
# Mass assignment

Values handed in from outside are written to a record in the order in which they come, as far as
their names are permitted. Names that are not are handed to an observer, and nothing else happens to
them.
-/

namespace RecordValidation

namespace Assignment

variable {ρ : Type}

/-- Write the entries with permitted names, hand the others to an observer, and answer with the
names written. -/
def writeEntries (host : Host ρ) (permitted : List Value) (refuse : Value → Value → Act ρ Unit) :
    List (Value × Value) → Act ρ (List Value)
  | [] => return []
  | (name, value) :: rest => do
    if permitted.contains name then
      host.set name value
      return name :: (← writeEntries host permitted refuse rest)
    else
      refuse name value
      writeEntries host permitted refuse rest

/-- What happens to a refused name: the observer, if there is one, is told only of safe
assignments. -/
def refusal (safeOnly : Value) (onUnsafe : Option (Value → Value → Act ρ Unit))
    (name value : Value) : Act ρ Unit :=
  match onUnsafe with
  | some observe => if safeOnly.truthy then observe name value else return
  | none => return

end Assignment

/-- Write the permitted values of a map to a record. -/
def assign {ρ : Type} (host : Host ρ) (values permitted safeOnly : Value)
    (onUnsafe : Option (Value → Value → Act ρ Unit)) : Act ρ (List Value) := do
  let allowed ← Act.ofOutcome permitted.nameSet
  let entries ← Act.ofOutcome values.entries
  Assignment.writeEntries host allowed (Assignment.refusal safeOnly onUnsafe) entries

end RecordValidation
