import RecordValidation.Fault

/-!
# Attribute descriptors

A descriptor names an attribute. A leading mark says that the attribute is active but unsafe, that
is, validated but never written by mass assignment. Only the first mark is one; what follows it is
the name.
-/

namespace RecordValidation.Descriptor

/-- The mark of an unsafe attribute. -/
def unsafeMark : Char := '!'

/-- Whether a descriptor is marked as unsafe. -/
def isUnsafe (descriptor : String) : Bool :=
  descriptor.toList.head? == some unsafeMark

/-- The name without the mark. -/
def name (descriptor : String) : String :=
  match descriptor.toList with
  | [] => descriptor
  | c :: rest => if c == unsafeMark then String.ofList rest else descriptor

/-- A descriptor without a mark is the name itself. -/
theorem name_of_not_isUnsafe (descriptor : String) (unmarked : isUnsafe descriptor = false) :
    name descriptor = descriptor := by
  unfold name
  split
  · rfl
  · rename_i c rest characters
    have different : (c == unsafeMark) = false := by simpa [isUnsafe, characters] using unmarked
    simp [different]

/-- A descriptor that is a text; nothing else has a mark to ask for. -/
def ofValue : Value → Outcome String
  | .text descriptor => .ok descriptor
  | _ => .error .notOffered

/-- The names of some descriptors. -/
def names (descriptors : List Value) : Outcome (List String) :=
  descriptors.mapM fun descriptor => name <$> ofValue descriptor

/-- The descriptors that are not marked. -/
def safeNames (descriptors : List Value) : Outcome (List String) := do
  return (← descriptors.mapM ofValue).filter fun descriptor => !isUnsafe descriptor

end RecordValidation.Descriptor
