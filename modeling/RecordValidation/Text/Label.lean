import RecordValidation.Text.Blank
import RecordValidation.Text.LetterCase

/-!
# Labels made from names

A name is cut into words at hyphens, underscores and dots, at blanks, and where a lower-case ASCII
letter or a digit meets an ASCII capital. The label is the words in order, the first character of
each in upper case, joined by single spaces.
-/

namespace RecordValidation.Text.Label

/-- Characters that separate the words of a name and do not show in the label. -/
def isSeparator (c : Char) : Bool := c == '-' || c == '_' || c == '.'

/-- Whether a word ends between two neighbouring characters. -/
def isBoundary (left right : Char) : Bool :=
  (('a' ≤ left && left ≤ 'z') || ('0' ≤ left && left ≤ '9')) && ('A' ≤ right && right ≤ 'Z')

/-- Put a space at every word boundary. -/
def spaced : List Char → List Char
  | [] => []
  | [c] => [c]
  | left :: right :: rest =>
    if isBoundary left right then left :: ' ' :: spaced (right :: rest)
    else left :: spaced (right :: rest)

/-- The words of a name. -/
def words (name : List Char) : List (List Char) :=
  chunks isBlank ((spaced name).map fun c => if isSeparator c then ' ' else c)

/-- A word with its first character in upper case. -/
def capitalized : List Char → List Char
  | [] => []
  | c :: rest => upperCharacters c ++ rest

/-- The label of a name. -/
def ofName (name : String) : String :=
  String.ofList (List.intercalate [' '] ((words name.toList).map capitalized))

example : ofName "first_name" = "First Name" := by decide +kernel
example : ofName "firstName" = "First Name" := by decide +kernel

end RecordValidation.Text.Label
