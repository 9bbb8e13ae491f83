import RecordValidation.Script.Call

/-!
# Inline checks

An inline check leaves the verdict to a function or to a method of the record. Nothing means no
complaint, a text is one complaint, and of anything else the items are the complaints.
-/

namespace RecordValidation

namespace Value

/-- The complaints that the result of a function stands for. -/
def complaints : Value → Outcome (List Value)
  | null => .ok []
  | text complaint => .ok [text complaint]
  | result => result.items

/-- Call what is already bound to a record with an attribute and parameters. -/
def callBound {ρ : Type} (host : Host ρ) (function name params : Value) : Act ρ Value :=
  match function with
  | .method called => host.invoke called name params
  | function => Act.ofOutcome (function.callOnPair name params)

end Value

/-- The complaints of a function about an attribute. -/
def inlineComplaints {ρ : Type} (host : Host ρ) (function params bound name : Value) :
    Act ρ (List Value) := do
  let result ←
    if bound.truthy then function.callBound host name params
    else function.callOnParams host name params
  Act.ofOutcome result.complaints

end RecordValidation
