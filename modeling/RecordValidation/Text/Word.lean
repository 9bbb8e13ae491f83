import RecordValidation.Text.CharacterClass.Letter
import RecordValidation.Text.CharacterClass.Numeral

/-!
# Letters, digits and word characters

A word character is a letter, a numeral or the underscore. A digit is a decimal digit of any script,
and `digitValue?` is what it counts for.
-/

namespace RecordValidation.Text

/-- Whether a character is a letter. -/
def isLetter (c : Char) : Bool := letters.contains c

/-- Whether a character is a decimal digit of some script. -/
def isDigit (c : Char) : Bool := decimalDigits.contains c

/-- Whether a character is a letter or a numeral. -/
def isAlphanumeric (c : Char) : Bool := letters.contains c || numerals.contains c

/-- Whether a character may be part of a word. -/
def isWord (c : Char) : Bool := c == '_' || isAlphanumeric c

/-- What a decimal digit counts for. -/
def digitValue? (c : Char) : Option Nat :=
  (CharacterClass.rangeStart? decimalDigits.ranges c.toNat).map fun start => (c.toNat - start) % 10

/-- Exactly the digits count for something. -/
theorem digitValue?_isSome (c : Char) : (digitValue? c).isSome = isDigit c := by
  simp [digitValue?, isDigit, CharacterClass.contains, ← CharacterClass.rangeStart?_isSome]

/-- Whether a text could name a group: a word that does not start with a numeral. -/
def isIdentifier (s : String) : Bool :=
  match s.toList with
  | [] => false
  | c :: rest => (c == '_' || isLetter c) && rest.all isWord

end RecordValidation.Text
