import RecordValidation.Text.LetterCase.Table
import RecordValidation.Text.CharacterClass.Cased

/-!
# Upper case and lower case

Texts are mapped character by character, where one character may become several. The lower-case form
of a capital sigma depends on its neighbours: it is a final sigma when a cased letter stands before
it and none after it, case-ignorable characters being skipped on both sides.

`lowerPartner` and `upperPartner` are the one-to-one mappings that comparisons without regard to
case are built on.
-/

namespace RecordValidation.Text

/-- The one-to-one partner of a code point in some runs; the code point itself when it has none. -/
def partnerIn (runs : List CaseRun) (c : Char) : Char :=
  match runs.findSome? (·.partner? c.toNat) with
  | some code => Char.ofNat code
  | none => c

/-- The characters a code point expands to, if it is listed. -/
def expansionIn (expansions : List (Nat × List Nat)) (c : Char) : Option (List Char) :=
  (expansions.lookup c.toNat).map (·.map Char.ofNat)

/-- The upper-case form of one character. -/
def upperCharacters (c : Char) : List Char :=
  (expansionIn upperExpansions c).getD [partnerIn upperRuns c]

/-- The lower-case form of one character, out of context. -/
def lowerCharacters (c : Char) : List Char :=
  (expansionIn lowerExpansions c).getD [partnerIn lowerRuns c]

/-- The single character a character is compared as when case does not count. -/
def lowerPartner (c : Char) : Char := (lowerCharacters c).headD c

/-- Whether the nearest character that is not case-ignorable is a cased letter. -/
def meetsCased (characters : List Char) : Bool :=
  match characters.dropWhile caseIgnorables.contains with
  | [] => false
  | c :: _ => casedLetters.contains c

/-- Lower-case the characters of `rest`, given those `before` it in reverse order. -/
def lowerFrom (before : List Char) : List Char → List Char
  | [] => []
  | c :: rest =>
    (if c == 'Σ' && meetsCased before && !meetsCased rest then ['ς'] else lowerCharacters c)
      ++ lowerFrom (c :: before) rest

/-- The text in upper case. -/
def upper (s : String) : String := String.ofList (s.toList.flatMap upperCharacters)

/-- The text in lower case. -/
def lower (s : String) : String := String.ofList (lowerFrom [] s.toList)

end RecordValidation.Text
