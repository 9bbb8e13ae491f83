import RecordValidation.Text.CharacterClass

/-!
# Blanks

The characters that count as white space: they are stripped from the ends of a text, separate words,
and may surround a number. Besides the usual controls and the spaces of every script these are the
four information separators (code points 28 to 31), the next-line control and the line and paragraph
separators. `trim` removes blanks from both ends, `words` cuts a text at its runs of blanks.
-/

namespace RecordValidation.Text

/-- The blank characters. -/
def blanks : CharacterClass where
  ranges := [
    (0x9, 0xD), (0x1C, 0x20), (0x85, 0x85), (0xA0, 0xA0), (0x1680, 0x1680), (0x2000, 0x200A),
    (0x2028, 0x2029), (0x202F, 0x202F), (0x205F, 0x205F), (0x3000, 0x3000)]

/-- Whether a character is blank. -/
def isBlank (c : Char) : Bool := blanks.contains c

/-- Drop the characters with a property from both ends. -/
def trimBy (drop : Char → Bool) (characters : List Char) : List Char :=
  ((characters.dropWhile drop).reverse.dropWhile drop).reverse

/-- Drop blanks from both ends. -/
def trimCharacters (characters : List Char) : List Char := trimBy isBlank characters

/-- A text without the blanks at its ends. -/
def trim (s : String) : String := String.ofList (trimCharacters s.toList)

/-- The maximal runs of characters that do not satisfy `cut`, in order. -/
def chunks (cut : Char → Bool) : List Char → List (List Char)
  | [] => []
  | c :: rest =>
    if cut c then chunks cut rest
    else
      match rest with
      | [] => [[c]]
      | d :: _ =>
        if cut d then [c] :: chunks cut rest
        else
          match chunks cut rest with
          | [] => [[c]]
          | chunk :: later => (c :: chunk) :: later

end RecordValidation.Text
