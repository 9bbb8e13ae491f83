import RecordValidation.Value.Key
import RecordValidation.Value.Text

/-!
# Agreement of values

Checks compare what a record holds with what they expect in one of two ways. Strictly, the two agree
only if they are of one type and equal. Loosely, they also agree if their texts are the same, the
way forms hand in numbers; an absent value then has no text.
-/

namespace RecordValidation

namespace Value

/-- The text of a value in a comparison; an absent value has none. -/
def comparedText : Value → String
  | null => ""
  | value => value.toText

/-- Whether a value agrees with what is expected. -/
def agrees (strict : Bool) (value expected : Value) : Bool :=
  if strict then value.typeName == expected.typeName && value.equals expected
  else value.equals expected || value.comparedText == expected.comparedText

end Value

end RecordValidation
