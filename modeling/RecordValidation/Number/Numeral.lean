import RecordValidation.Number.Binary64
import RecordValidation.Text.Blank
import RecordValidation.Text.Word

/-!
# Numerals

Three readings of a text as a number.

`isIntegerText` and `isNumberText` say whether a text looks like a number to a form: blanks around
an optional sign and digits, where an integer may use the digits of any script, and a number may
have a fraction and a power of ten in ASCII digits.

`readBinary64?` converts a text. It knows the digits of all scripts, a point with digits on either
side, a power of ten, single underscores between digits, and the words for infinity and the absent
number in any case; the blanks it allows around them are those of `isBlank` but for the four
information separators.
-/

namespace RecordValidation.Numeral

/-- Whether a character is one of the ten ASCII digits. -/
def isAsciiDigit (c : Char) : Bool := '0' ≤ c && c ≤ '9'

/-- The text after an optional sign. -/
def afterSign : List Char → List Char
  | '+' :: rest => rest
  | '-' :: rest => rest
  | characters => characters

/-- Whether a minus sign stands in front. -/
def isNegative : List Char → Bool
  | '-' :: _ => true
  | _ => false

/-- Blanks, an optional sign, digits of any script and blanks. -/
def isIntegerText (characters : List Char) : Bool :=
  let body := afterSign (characters.dropWhile Text.isBlank)
  !(body.takeWhile Text.isDigit).isEmpty && (body.dropWhile Text.isDigit).all Text.isBlank

/-- What is left after an optional power of ten. -/
def afterExponent (characters : List Char) : List Char :=
  match characters with
  | c :: rest =>
    if c == 'e' || c == 'E' then
      let digits := afterSign rest
      if (digits.takeWhile isAsciiDigit).isEmpty then characters
      else digits.dropWhile isAsciiDigit
    else characters
  | [] => []

/-- What is left after digits that may have a fraction, if there are any: a fraction has at least
one digit after the point, and a number without one at least one digit. -/
def afterDecimal? (characters : List Char) : Option (List Char) :=
  let whole := characters.takeWhile isAsciiDigit
  match characters.dropWhile isAsciiDigit with
  | '.' :: rest =>
    if (rest.takeWhile isAsciiDigit).isEmpty then none else some (rest.dropWhile isAsciiDigit)
  | rest => if whole.isEmpty then none else some rest

/-- Blanks, an optional sign, digits with an optional fraction and power of ten, and blanks. -/
def isNumberText (characters : List Char) : Bool :=
  match afterDecimal? (afterSign (characters.dropWhile Text.isBlank)) with
  | some rest => (afterExponent rest).all Text.isBlank
  | none => false

/-- A blank that may surround a number that is converted. -/
def isPadding (c : Char) : Bool := Text.isBlank c && !(0x1C ≤ c.toNat && c.toNat ≤ 0x1F)

/-- A digit of any script as the ASCII digit of the same value. -/
def asciiDigit (c : Char) : Char :=
  match Text.digitValue? c with
  | some value => Char.ofNat (0x30 + value)
  | none => c

/-- The characters without underscores, provided that each underscore stands between two digits. -/
def withoutUnderscores? (afterDigit : Bool) : List Char → Option (List Char)
  | [] => some []
  | '_' :: rest =>
    if afterDigit && (rest.head?.map isAsciiDigit).getD false then withoutUnderscores? false rest
    else none
  | c :: rest => (withoutUnderscores? (isAsciiDigit c) rest).map (c :: ·)

/-- The natural number that ASCII digits write. -/
def digitsValue (digits : List Char) : Nat :=
  digits.foldl (fun value c => 10 * value + (c.toNat - 0x30)) 0

/-- The number nearest to `digits * 10 ^ power`. Powers that are out of reach for any finite number
are not computed. -/
def scaledDecimal (negative : Bool) (digits : Nat) (power : Int) : Binary64 :=
  let place := power + (Nat.toDigits 10 digits).length
  if digits = 0 then .finite negative 0 Binary64.minExponent
  else if 400 < place then .infinite negative
  else if place < -400 then .finite negative 0 Binary64.minExponent
  else if 0 ≤ power then .ofRatio negative (digits * Nat.pow 10 power.toNat) 1
  else .ofRatio negative digits (Nat.pow 10 (-power).toNat)

/-- The power of ten that ends a numeral; absent when the rest is no power of ten. -/
def readPower? : List Char → Option Int
  | [] => some 0
  | c :: rest =>
    let digits := afterSign rest
    if (c == 'e' || c == 'E') && !digits.isEmpty && digits.all isAsciiDigit then
      let magnitude : Int := digitsValue digits
      some (if isNegative rest then -magnitude else magnitude)
    else none

/-- Read digits with an optional point and power of ten. -/
def readDecimal? (negative : Bool) (characters : List Char) : Option Binary64 :=
  let whole := characters.takeWhile isAsciiDigit
  let (fraction, rest) :=
    match characters.dropWhile isAsciiDigit with
    | '.' :: rest => (rest.takeWhile isAsciiDigit, rest.dropWhile isAsciiDigit)
    | rest => ([], rest)
  if whole.isEmpty && fraction.isEmpty then none
  else
    (readPower? rest).map fun power =>
      scaledDecimal negative (digitsValue (whole ++ fraction)) (power - fraction.length)

/-- Read what follows the sign of a number. -/
def readMagnitude? (negative : Bool) (characters : List Char) : Option Binary64 :=
  let word := String.ofList (characters.map Char.toLower)
  if word == "inf" || word == "infinity" then some (.infinite negative)
  else if word == "nan" then some .nan
  else (withoutUnderscores? false characters).bind (readDecimal? negative)

/-- Convert a text to the number nearest to what it writes. -/
def readBinary64? (s : String) : Option Binary64 :=
  let characters := (Text.trimBy isPadding s.toList).map asciiDigit
  readMagnitude? (isNegative characters) (afterSign characters)

end RecordValidation.Numeral
