import RecordValidation.Script.Call

/-!
# What a validator counts as empty

A validator may bring a function that decides what is empty; without one, absent values, texts
without characters and lists and maps without items are.
-/

namespace RecordValidation

/-- Whether a validator counts a value as empty. -/
def ValidatorOf.countsAsEmpty (validator : Validator) (value : Value) : Outcome Bool :=
  if validator.emptiness.isNull then .ok value.isEmpty
  else Value.truthy <$> validator.emptiness.callOn value

/-- Without a function of its own, a validator counts as empty what is empty. -/
theorem ValidatorOf.countsAsEmpty_of_isNull (validator : Validator) (value : Value)
    (plain : validator.emptiness.isNull = true) :
    validator.countsAsEmpty value = .ok value.isEmpty := by
  simp [countsAsEmpty, plain]

end RecordValidation
