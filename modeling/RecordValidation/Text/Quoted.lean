import RecordValidation.Text.CharacterClass.Printable

/-!
# Quoted texts

A text is shown between single quotes, or between double quotes when it holds a single quote and no
double one. The quote in use and the backslash are escaped by a backslash, line feed, carriage
return and tab by their letters, and every other character that is not printable by its code point:
two hexadecimal digits after `x`, four after `u` or eight after `U`, the shortest that fits.
-/

namespace RecordValidation.Text

/-- The lower-case hexadecimal digit of a number below sixteen. -/
def hexDigit (n : Nat) : Char := "0123456789abcdef".toList.getD n '0'

/-- A number in hexadecimal, with exactly `width` digits. -/
def hexDigits : (width : Nat) → (n : Nat) → List Char
  | 0, _ => []
  | width + 1, n => hexDigits width (n / 16) ++ [hexDigit (n % 16)]

/-- The quote a text is shown in. -/
def quoteFor (characters : List Char) : Char :=
  if characters.contains '\'' && !characters.contains '"' then '"' else '\''

/-- One character as it stands between quotes. -/
def quotedCharacter (quote c : Char) : List Char :=
  if c == quote || c == '\\' then ['\\', c]
  else if c == '\n' then ['\\', 'n']
  else if c == '\r' then ['\\', 'r']
  else if c == '\t' then ['\\', 't']
  else if printables.contains c then [c]
  else if c.toNat < 0x100 then '\\' :: 'x' :: hexDigits 2 c.toNat
  else if c.toNat < 0x10000 then '\\' :: 'u' :: hexDigits 4 c.toNat
  else '\\' :: 'U' :: hexDigits 8 c.toNat

/-- A text between quotes, with escapes. -/
def quoted (s : String) : String :=
  let characters := s.toList
  let quote := quoteFor characters
  String.ofList (quote :: characters.flatMap (quotedCharacter quote) ++ [quote])

example : quoted "it's" = "\"it's\"" := by decide +kernel
example : quoted "a\nb" = "'a\\nb'" := by decide +kernel

end RecordValidation.Text
