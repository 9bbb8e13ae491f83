import RecordValidation.Pattern.Source
import RecordValidation.Number.Numeral

/-!
# Escapes

A backslash gives the character after it another meaning: a control character, a character by its
code point in octal or hexadecimal, a kind of characters, an anchor, or the text of a group. Other
ASCII letters and digits may not be escaped; any other character stands for itself.
-/

namespace RecordValidation.Pattern.Reader

/-- Whether a character is a hexadecimal digit. -/
def isHexDigit (c : Char) : Bool :=
  Numeral.isAsciiDigit c || ('a' ≤ c && c ≤ 'f') || ('A' ≤ c && c ≤ 'F')

/-- Whether a character is an octal digit. -/
def isOctalDigit (c : Char) : Bool := '0' ≤ c && c ≤ '7'

/-- Whether a character is an ASCII letter. -/
def isAsciiLetter (c : Char) : Bool := ('a' ≤ c && c ≤ 'z') || ('A' ≤ c && c ≤ 'Z')

/-- The value of a hexadecimal digit. -/
def hexValue (c : Char) : Nat :=
  if Numeral.isAsciiDigit c then c.toNat - 0x30
  else if 'a' ≤ c then c.toNat - 0x61 + 10
  else c.toNat - 0x41 + 10

/-- The number that digits write in a base. -/
def valueIn (base : Nat) (digits : List Char) : Nat :=
  digits.foldl (fun value c => base * value + hexValue c) 0

/-- The control character an escaped letter stands for. -/
def controlCode? : Char → Option Nat
  | 'a' => some 7
  | 'b' => some 8
  | 'f' => some 12
  | 'n' => some 10
  | 'r' => some 13
  | 't' => some 9
  | 'v' => some 11
  | '\\' => some 92
  | _ => none

/-- The kind of characters an escaped letter stands for. -/
def kind? : Char → Option SetItem
  | 'd' => some (.kind .digit false)
  | 'D' => some (.kind .digit true)
  | 's' => some (.kind .blank false)
  | 'S' => some (.kind .blank true)
  | 'w' => some (.kind .word false)
  | 'W' => some (.kind .word true)
  | _ => none

/-- The anchor an escaped letter stands for. -/
def anchor? : Char → Option Anchor
  | 'A' => some .textStart
  | 'b' => some .boundary
  | 'B' => some .insideWord
  | 'Z' => some .textEnd
  | _ => none

/-- The text of an escape with the digits after it. -/
def escapeText (c : Char) (digits : List Char) : String := String.ofList ('\\' :: c :: digits)

/-- Exactly `count` hexadecimal digits after an escaped letter. -/
def hexEscape (c : Char) (count : Nat) : Reader Nat := do
  let digits ← takeWhile isHexDigit count
  if digits.length = count then
    let code := valueIn 16 digits
    if code < 0x110000 then return code
    else fail (.badEscape (escapeText c digits)) (count + 2)
  else fail (.incompleteEscape (escapeText c digits)) (digits.length + 2)

/-- A character by its name between braces. No names are known. -/
def namedEscape (limit : Nat) : Reader Nat := do
  if ← accept '\x7b' then
    let name ← takeUntil '\x7d' "character name" limit []
    fail (.unknownCharacterName name) (name.length + 4)
  else fail (.missing "\x7b") 0

/-- A code point written after an escaped letter, if the letter announces one. -/
def codeEscape? (limit : Nat) (c : Char) : Reader (Option Nat) := do
  match c with
  | 'x' => return some (← hexEscape c 2)
  | 'u' => return some (← hexEscape c 4)
  | 'U' => return some (← hexEscape c 8)
  | 'N' => return some (← namedEscape limit)
  | _ => return none

/-- Refuse an octal escape beyond one byte. -/
def checkOctal (digits : List Char) : Reader Nat := do
  let code := valueIn 8 digits
  if code ≤ 0o377 then return code
  else fail (.octalOutOfRange (String.ofList ('\\' :: digits))) (digits.length + 1)

/-- An escaped character that stands for itself. -/
def plainEscape (c : Char) : Reader Nat := do
  if isAsciiLetter c || Numeral.isAsciiDigit c then fail (.badEscape (escapeText c [])) 2
  else return c.toNat

/-- An escape inside a character set. -/
def setEscape (limit : Nat) (c : Char) : Reader SetItem := do
  match controlCode? c, kind? c with
  | some code, _ => return .character code
  | none, some item => return item
  | none, none =>
    match ← codeEscape? limit c with
    | some code => return .character code
    | none =>
      if isOctalDigit c then return .character (← checkOctal (c :: (← takeWhile isOctalDigit 2)))
      else return .character (← plainEscape c)

/-- A reference to the group with a number, `length` characters long as written. -/
def numberReference (index length : Nat) : Reader Node := do
  let source ← get
  if index < groupCount source then
    if isClosed source index then
      checkLookBehind index
      return .backreference index
    else fail .openGroupReference length
  else fail (.unknownGroupNumber index) (length - 1)

/-- A digit after a backslash: three octal digits are a code point, otherwise one or two digits are
the number of a group. -/
def digitEscape (c : Char) : Reader Node := do
  match ← peekIf Numeral.isAsciiDigit with
  | none => numberReference (hexValue c) 2
  | some second =>
    advance
    let third ← peekIf isOctalDigit
    match third with
    | some last =>
      if isOctalDigit c && isOctalDigit second then
        advance
        return .literal (← checkOctal [c, second, last])
      else numberReference (valueIn 10 [c, second]) 3
    | none => numberReference (valueIn 10 [c, second]) 3

/-- An escape outside of character sets. -/
def escape (limit : Nat) (c : Char) : Reader Node := do
  match anchor? c, kind? c, controlCode? c with
  | some place, _, _ => return .anchor place
  | none, some item, _ => return .oneOf false [item]
  | none, none, some code => return .literal code
  | none, none, none =>
    match ← codeEscape? limit c with
    | some code => return .literal code
    | none =>
      if c = '0' then return .literal (valueIn 8 (← takeWhile isOctalDigit 2))
      else if Numeral.isAsciiDigit c then digitEscape c
      else return .literal (← plainEscape c)

end RecordValidation.Pattern.Reader
