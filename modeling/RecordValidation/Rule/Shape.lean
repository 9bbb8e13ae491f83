/-!
# The shape of rules

A rule names attributes, the kind of check for them, the scenarios it is limited to and parameters
for the check. The shape is open in the type of values, because a value may in turn be a rule. A
rule that was read from a declaration has lists of texts under `attributes`, `on` and `except`; one
that was put together without reading may hold anything there.
-/

namespace RecordValidation

/-- A rule before it is compiled. -/
structure RuleOf (α : Type) where
  attributes : α
  /-- An alias, a kind of check, or a function. -/
  validator : α
  on : α
  except : α
  /-- Parameters of the check by name. -/
  params : List (α × α)

end RecordValidation
