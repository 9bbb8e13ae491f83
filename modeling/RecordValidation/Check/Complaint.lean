import RecordValidation.Session
import RecordValidation.Text.Template

/-!
# Complaints

A check that fails gives a complaint: a template, which may be a validator's own message or the
check's, and values for its placeholders. A complaint about an attribute is worded with the label of
the attribute under the name `attribute` and the other values under theirs.
-/

namespace RecordValidation

/-- A complaint before it is worded. -/
structure Complaint where
  template : Value
  /-- The values of the placeholders other than `attribute`. -/
  params : List (String × Value)

namespace Complaint

/-- The values of all placeholders, where the attribute goes by a label. -/
def placeholders (label : Value) (complaint : Complaint) : List (String × Value) :=
  ("attribute", label) :: complaint.params

/-- The wording of a complaint about an attribute that goes by a label. -/
def render (label : Value) (complaint : Complaint) : Outcome String :=
  match complaint.template with
  | .text template =>
    .ok (Text.Template.render
      (fun name => Value.toText <$> (complaint.placeholders label).lookup name) template)
  | _ => .error .unsupported

/-- The wording of a complaint about an attribute of a record. -/
def worded {ρ : Type} (host : Host ρ) (name : Value) (complaint : Complaint) : Act ρ Value := do
  let label ← host.labelOf name
  return .text (← Act.ofOutcome (complaint.render label))

/-- Names that no placeholder can be given a value for. -/
def reserved : List String := ["self", "record", "template", "attribute"]

/-- A complaint with a template and values for placeholders that come from outside. -/
def ofArguments (template : Value) (params : List (String × Value)) : Outcome Complaint :=
  if params.any fun entry => reserved.contains entry.1 then .error .unsupported
  else .ok { template, params }

end Complaint

end RecordValidation
