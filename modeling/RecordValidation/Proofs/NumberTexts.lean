import RecordValidation.Proofs.IntegerNumerals

/-!
# Texts that look like numbers and texts that are converted

Two readers look at the text of a number: one says whether it looks like a number or an integer, the
other converts it. `IsNumeral` is what both agree about, a sign, digits with an optional fraction
and an optional power of ten. A text that looks like a number is a numeral with blanks around it,
once the digits of all scripts are written as ASCII digits (`IsPaddedNumeral`), and every numeral is
converted (`IsNumeral.isSome_readMagnitude?`).

They differ about the blanks. The four information separators count as blank for the first reader
and are nothing that the second one knows, so a text that looks like a number is converted exactly
if it has none of them (`isSome_readBinary64?_iff`).
-/

namespace RecordValidation

namespace Text

/-! ## Classes of characters -/

/-- A code point that is covered lies in one of the ranges. The search stops early where ranges
begin beyond the code, so being covered says more than is used here. -/
theorem CharacterClass.exists_range_of_covers {ranges : List (Nat × Nat)} {code : Nat}
    (covered : covers ranges code = true) :
    ∃ range ∈ ranges, range.1 ≤ code ∧ code ≤ range.2 := by
  induction ranges with
  | nil => cases covered
  | cons range rest inductionHypothesis =>
    obtain ⟨first, last⟩ := range
    by_cases before : code < first
    · simp [covers, before] at covered
    · by_cases inside : code ≤ last
      · exact ⟨(first, last), List.mem_cons_self, not_lt.1 before, inside⟩
      · have later : covers rest code = true := by
          simpa [covers, before, inside] using covered
        obtain ⟨range, present, within⟩ := inductionHypothesis later
        exact ⟨range, List.mem_cons_of_mem _ present, within⟩

/-- A character of a class belongs to no other class whose ranges lie apart. A code in a range of
each would keep these two from lying apart. -/
theorem CharacterClass.not_contains_of_apart {members others : CharacterClass}
    (apart : ∀ a ∈ members.ranges, ∀ b ∈ others.ranges, a.2 < b.1 ∨ b.2 < a.1) {c : Char}
    (belongs : members.contains c = true) : others.contains c = false := by
  rw [Bool.eq_false_iff]
  intro other
  obtain ⟨a, ofMembers, low, high⟩ := exists_range_of_covers belongs
  obtain ⟨b, ofOthers, least, most⟩ := exists_range_of_covers other
  have sides := apart a ofMembers b ofOthers
  omega

/-- No digit of any script is blank. -/
theorem isBlank_of_isDigit {c : Char} (digit : isDigit c = true) : isBlank c = false :=
  CharacterClass.not_contains_of_apart (by decide +kernel) digit

/-! ## Trimming -/

/-- A character that is not dropped is left by dropping at the beginning. -/
theorem mem_dropWhile {drop : Char → Bool} {characters : List Char} {c : Char}
    (present : c ∈ characters) (stays : drop c = false) : c ∈ characters.dropWhile drop := by
  rw [← List.takeWhile_append_dropWhile (p := drop) (l := characters), List.mem_append] at present
  rcases present with dropped | kept
  · rw [List.mem_takeWhile_imp dropped] at stays
    cases stays
  · exact kept

/-- A character that is not dropped is left by trimming. -/
theorem mem_trimBy {drop : Char → Bool} {characters : List Char} {c : Char}
    (present : c ∈ characters) (stays : drop c = false) : c ∈ trimBy drop characters := by
  have left := mem_dropWhile present stays
  exact List.mem_reverse.2 (mem_dropWhile (List.mem_reverse.2 left) stays)

/-- Dropping at the beginning takes nothing from characters of which none is dropped; only if there
are none does it go on to those behind them. -/
theorem dropWhile_append_of_kept {drop : Char → Bool} {core after : List Char}
    (kept : ∀ c ∈ core, drop c = false) (dropped : ∀ c ∈ after, drop c = true) :
    (core ++ after).dropWhile drop = if core = [] then [] else core ++ after := by
  cases core with
  | nil => simpa using dropped
  | cons c rest =>
    rw [if_neg (List.cons_ne_nil c rest), List.cons_append]
    exact List.dropWhile_cons_of_neg (by simp [kept c List.mem_cons_self])

/-- Trimming leaves what stands between characters that are dropped. If nothing stands between them,
all are dropped at once, so this case is apart. -/
theorem trimBy_append {drop : Char → Bool} {before core after : List Char}
    (first : ∀ c ∈ before, drop c = true) (kept : ∀ c ∈ core, drop c = false)
    (last : ∀ c ∈ after, drop c = true) : trimBy drop (before ++ (core ++ after)) = core := by
  by_cases none : core = []
  · subst none
    have all : ∀ c ∈ before ++ after, drop c = true := by
      intro c present
      rcases List.mem_append.1 present with early | late
      · exact first c early
      · exact last c late
    rw [List.nil_append, trimBy, List.dropWhile_eq_nil_iff.2 all]
    rfl
  · have keptBack : ∀ c ∈ core.reverse, drop c = false := fun c present =>
      kept c (List.mem_reverse.1 present)
    have lastBack : ∀ c ∈ after.reverse, drop c = true := fun c present =>
      last c (List.mem_reverse.1 present)
    have noneBack : core.reverse ≠ [] := by simpa using none
    have back := @dropWhile_append_of_kept drop _ [] keptBack (by simp)
    rw [List.append_nil, if_neg noneBack] at back
    rw [trimBy, List.dropWhile_append_of_pos first, dropWhile_append_of_kept kept last,
      if_neg none, List.reverse_append, List.dropWhile_append_of_pos lastBack, back,
      List.reverse_reverse]

end Text

namespace Numeral

/-! ## Numerals -/

/-- One or more ASCII digits. -/
structure IsDigits (digits : List Char) : Prop where
  given : digits ≠ []
  ascii : ∀ c ∈ digits, isAsciiDigit c = true

/-- A sign or nothing. -/
inductive IsSign : List Char → Prop
  | none : IsSign []
  | plus : IsSign ['+']
  | minus : IsSign ['-']

/-- Digits that may have a fraction; with one, there may be none before the point. -/
inductive IsDecimal : List Char → Prop
  | whole {digits : List Char} (isDigits : IsDigits digits) : IsDecimal digits
  | fraction {whole digits : List Char} (ascii : ∀ c ∈ whole, isAsciiDigit c = true)
    (isDigits : IsDigits digits) : IsDecimal (whole ++ '.' :: digits)

/-- A power of ten or nothing. -/
inductive IsPower : List Char → Prop
  | none : IsPower []
  | power {mark : Char} {sign digits : List Char} (isMark : mark = 'e' ∨ mark = 'E')
    (isSign : IsSign sign) (isDigits : IsDigits digits) : IsPower (mark :: (sign ++ digits))

/-- A sign, digits that may have a fraction, and a power of ten, where all but the digits may be
missing. -/
inductive IsNumeral : List Char → Prop
  | numeral {sign decimal power : List Char} (isSign : IsSign sign)
    (isDecimal : IsDecimal decimal) (isPower : IsPower power) :
    IsNumeral (sign ++ (decimal ++ power))

/-- A character that numerals are written with. -/
def IsNumeric (c : Char) : Prop := isAsciiDigit c = true ∨ c ∈ ['.', 'e', 'E', '+', '-']

instance (c : Char) : Decidable (IsNumeric c) := inferInstanceAs (Decidable (_ ∨ _))

/-- What numerals are written with is not blank, stands for itself and is no underscore. -/
theorem IsNumeric.plain {c : Char} (numeric : IsNumeric c) :
    Text.isBlank c = false ∧ asciiDigit c = c ∧ c ≠ '_' := by
  rcases numeric with ascii | listed
  · have plain := isPlain_of_isDigit ascii
    exact ⟨plain.notBlank, plain.self, plain.noUnderscore⟩
  · simp only [List.mem_cons, List.not_mem_nil, or_false] at listed
    rcases listed with rfl | rfl | rfl | rfl | rfl <;> decide

/-- A digit of any script is written as an ASCII digit. Its value is below ten, and each of the ten
is written as a digit. -/
theorem isAsciiDigit_asciiDigit {c : Char} (digit : Text.isDigit c = true) :
    isAsciiDigit (asciiDigit c) = true := by
  obtain ⟨value, counts⟩ := Option.isSome_iff_exists.1 ((Text.digitValue?_isSome c).trans digit)
  have small : value < 10 := by
    obtain ⟨start, -, rfl⟩ := Option.map_eq_some_iff.1 counts
    exact Nat.mod_lt _ (by decide)
  have written : asciiDigit c = Char.ofNat (0x30 + value) := by rw [asciiDigit, counts]
  rw [written]
  clear counts written
  interval_cases value <;> decide

/-! ### What numerals are written with -/

/-- Digits are among the characters that numerals are written with. -/
theorem IsDigits.numeric {digits : List Char} (isDigits : IsDigits digits) :
    ∀ c ∈ digits, IsNumeric c := fun c present => .inl (isDigits.ascii c present)

/-- A sign is one character that numerals are written with, or nothing. -/
theorem IsSign.numeric {sign : List Char} (isSign : IsSign sign) : ∀ c ∈ sign, IsNumeric c := by
  cases isSign <;> simp [IsNumeric]

/-- A decimal is written as numerals are: its digits are, on both sides of the point, and the point
is. -/
theorem IsDecimal.numeric {decimal : List Char} (isDecimal : IsDecimal decimal) :
    ∀ c ∈ decimal, IsNumeric c := by
  cases isDecimal with
  | whole isDigits => exact isDigits.numeric
  | fraction ascii isDigits =>
    rw [List.forall_mem_append, List.forall_mem_cons]
    exact ⟨fun c present => .inl (ascii c present), by decide, isDigits.numeric⟩

/-- A power of ten is written as numerals are: its mark, its sign and its digits are. -/
theorem IsPower.numeric {power : List Char} (isPower : IsPower power) :
    ∀ c ∈ power, IsNumeric c := by
  cases isPower with
  | none => exact List.forall_mem_nil _
  | power isMark isSign isDigits =>
    rw [List.forall_mem_cons, List.forall_mem_append]
    exact ⟨by rcases isMark with rfl | rfl <;> decide, isSign.numeric, isDigits.numeric⟩

/-- A numeral has no characters but those that its sign, its decimal and its power are written
with. -/
theorem IsNumeral.numeric {characters : List Char} (isNumeral : IsNumeral characters) :
    ∀ c ∈ characters, IsNumeric c := by
  cases isNumeral with
  | numeral isSign isDecimal isPower =>
    rw [List.forall_mem_append, List.forall_mem_append]
    exact ⟨isSign.numeric, isDecimal.numeric, isPower.numeric⟩

/-- What numerals are written with is written as it is. -/
theorem map_asciiDigit_of_numeric {core : List Char} (numeric : ∀ c ∈ core, IsNumeric c) :
    core.map asciiDigit = core :=
  (List.map_congr_left fun c present => (numeric c present).plain.2.1).trans (List.map_id core)

/-! ## Texts that look like numbers -/

/-- Before what follows the sign stands the sign. There are two signs, and a text that begins with
neither has none. -/
theorem exists_sign (characters : List Char) :
    ∃ sign, IsSign sign ∧ characters = sign ++ afterSign characters := by
  unfold afterSign
  split
  · exact ⟨['+'], .plus, rfl⟩
  · exact ⟨['-'], .minus, rfl⟩
  · exact ⟨[], .none, rfl⟩

/-- The ASCII digits at the beginning are digits if there are any. -/
theorem isDigits_takeWhile {characters : List Char}
    (given : ¬(characters.takeWhile isAsciiDigit).isEmpty = true) :
    IsDigits (characters.takeWhile isAsciiDigit) :=
  ⟨fun none => given (List.isEmpty_iff.2 none), fun _ => List.mem_takeWhile_imp⟩

/-- Before what is left after digits that may have a fraction stand these. What was passed over is a
decimal, with a point or without. -/
theorem exists_decimal {characters rest : List Char}
    (found : afterDecimal? characters = some rest) :
    ∃ decimal, IsDecimal decimal ∧ characters = decimal ++ rest := by
  have parts := List.takeWhile_append_dropWhile (p := isAsciiDigit) (l := characters)
  unfold afterDecimal? at found
  dsimp only at found
  split at found
  -- With a point behind the first digits there have to be digits behind the point, and only there.
  · rename_i behind dropped
    by_cases none : (behind.takeWhile isAsciiDigit).isEmpty = true
    · rw [if_pos none] at found
      cases found
    · rw [if_neg none, Option.some.injEq] at found
      have whole : ∀ c ∈ characters.takeWhile isAsciiDigit, isAsciiDigit c = true :=
        fun _ => List.mem_takeWhile_imp
      refine ⟨_, .fraction whole (isDigits_takeWhile none), ?_⟩
      rw [← found, List.append_assoc, List.cons_append, List.takeWhile_append_dropWhile,
        ← dropped, parts]
  · by_cases none : (characters.takeWhile isAsciiDigit).isEmpty = true
    · rw [if_pos none] at found
      cases found
    · rw [if_neg none, Option.some.injEq] at found
      refine ⟨_, .whole (isDigits_takeWhile none), ?_⟩
      rw [← found, parts]

/-- Before what is left after a power of ten stands this. A mark without digits behind it is no
power, and then nothing is passed over. -/
theorem exists_power (characters : List Char) :
    ∃ power, IsPower power ∧ characters = power ++ afterExponent characters := by
  unfold afterExponent
  split
  · rename_i mark rest
    by_cases isMark : (mark == 'e' || mark == 'E') = true
    · by_cases none : ((afterSign rest).takeWhile isAsciiDigit).isEmpty = true
      · exact ⟨[], .none, by simp [isMark, none]⟩
      · obtain ⟨sign, isSign, split⟩ := exists_sign rest
        have marks : mark = 'e' ∨ mark = 'E' := by simpa using isMark
        refine ⟨_, .power marks isSign (isDigits_takeWhile none), ?_⟩
        simp only [if_pos isMark, if_neg none, List.cons_append, List.append_assoc,
          List.takeWhile_append_dropWhile, ← split]
    · exact ⟨[], .none, by simp [isMark]⟩
  · exact ⟨[], .none, rfl⟩

/-- Blanks, a numeral that is written with the digits of any script, and blanks again. -/
structure IsPaddedNumeral (before core after : List Char) : Prop where
  first : ∀ c ∈ before, Text.isBlank c = true
  kept : ∀ c ∈ core, Text.isBlank c = false
  last : ∀ c ∈ after, Text.isBlank c = true
  numeral : IsNumeral (core.map asciiDigit)

/-- A text that looks like an integer is a numeral between blanks. Its parts are cut out in the
order in which the reader passes over them. The digits may be those of any script, so they are a
numeral only once they are written as ASCII digits. -/
theorem exists_numeral_of_isIntegerText {characters : List Char}
    (looks : isIntegerText characters = true) :
    ∃ before core after, characters = before ++ (core ++ after) ∧
      IsPaddedNumeral before core after := by
  have parts := List.takeWhile_append_dropWhile (p := Text.isBlank) (l := characters)
  obtain ⟨sign, isSign, signed⟩ := exists_sign (characters.dropWhile Text.isBlank)
  generalize body : afterSign (characters.dropWhile Text.isBlank) = rest at signed
  have divided := List.takeWhile_append_dropWhile (p := Text.isDigit) (l := rest)
  have digit : ∀ c ∈ rest.takeWhile Text.isDigit, Text.isDigit c = true :=
    fun c => List.mem_takeWhile_imp
  obtain ⟨given, blank⟩ : rest.takeWhile Text.isDigit ≠ [] ∧
      ∀ c ∈ rest.dropWhile Text.isDigit, Text.isBlank c = true := by
    simpa [isIntegerText, body] using looks
  have isDigits : IsDigits ((rest.takeWhile Text.isDigit).map asciiDigit) := by
    refine ⟨by simpa using given, fun c present => ?_⟩
    obtain ⟨written, among, rfl⟩ := List.mem_map.1 present
    exact isAsciiDigit_asciiDigit (digit written among)
  refine ⟨characters.takeWhile Text.isBlank, sign ++ rest.takeWhile Text.isDigit,
    rest.dropWhile Text.isDigit, ?split, ?padded⟩
  case split => rw [List.append_assoc, divided, ← signed, parts]
  case padded =>
    refine ⟨fun _ => List.mem_takeWhile_imp, ?kept, blank, ?numeral⟩
    case kept =>
      rw [List.forall_mem_append]
      exact ⟨fun c present => (isSign.numeric c present).plain.1,
        fun c present => Text.isBlank_of_isDigit (digit c present)⟩
    case numeral =>
      have numeral := IsNumeral.numeral isSign (.whole isDigits) .none
      rwa [List.append_nil, ← map_asciiDigit_of_numeric isSign.numeric, ← List.map_append]
        at numeral

/-- A text that looks like a number is a numeral between blanks. Here the digits are ASCII digits
already, and writing them so changes nothing. -/
theorem exists_numeral_of_isNumberText {characters : List Char}
    (looks : isNumberText characters = true) :
    ∃ before core after, characters = before ++ (core ++ after) ∧
      IsPaddedNumeral before core after := by
  have parts := List.takeWhile_append_dropWhile (p := Text.isBlank) (l := characters)
  obtain ⟨sign, isSign, signed⟩ := exists_sign (characters.dropWhile Text.isBlank)
  unfold isNumberText at looks
  split at looks
  · rename_i rest found
    obtain ⟨decimal, isDecimal, split⟩ := exists_decimal found
    obtain ⟨power, isPower, ends⟩ := exists_power rest
    have isNumeral := IsNumeral.numeral isSign isDecimal isPower
    refine ⟨characters.takeWhile Text.isBlank, sign ++ (decimal ++ power), afterExponent rest,
      ?split, ?padded⟩
    case split =>
      rw [List.append_assoc, List.append_assoc, ← ends, ← split, ← signed, parts]
    case padded =>
      refine ⟨fun _ => List.mem_takeWhile_imp,
        fun c present => (isNumeral.numeric c present).plain.1, List.all_eq_true.1 looks, ?_⟩
      rwa [map_asciiDigit_of_numeric isNumeral.numeric]
  · cases looks

/-! ## Numerals are converted -/

/-- What follows a sign is found, provided that it does not begin with another one. A text that has
no sign may begin with a digit or a point, and only the first character is looked at. -/
theorem afterSign_append {sign rest : List Char} (isSign : IsSign sign)
    (noSign : ∀ c ∈ rest.head?, c ≠ '+' ∧ c ≠ '-') : afterSign (sign ++ rest) = rest := by
  cases isSign with
  | plus => rfl
  | minus => rfl
  | none =>
    rw [List.nil_append]
    unfold afterSign
    split
    · exact absurd rfl (noSign '+' rfl).1
    · exact absurd rfl (noSign '-' rfl).2
    · rfl

/-- Digits begin with no sign. -/
theorem IsDigits.noSign {digits : List Char} (isDigits : IsDigits digits) (rest : List Char) :
    ∀ c ∈ (digits ++ rest).head?, c ≠ '+' ∧ c ≠ '-' := by
  obtain ⟨first, others, rfl⟩ := List.exists_cons_of_ne_nil isDigits.given
  rintro c ⟨⟩
  exact (isPlain_of_isDigit (isDigits.ascii first List.mem_cons_self)).noSign

/-- Digits that may have a fraction begin with no sign. -/
theorem IsDecimal.noSign {decimal : List Char} (isDecimal : IsDecimal decimal)
    (rest : List Char) : ∀ c ∈ (decimal ++ rest).head?, c ≠ '+' ∧ c ≠ '-' := by
  cases isDecimal with
  | whole isDigits => exact isDigits.noSign rest
  | @fraction whole digits ascii isDigits =>
    cases whole with
    | nil =>
      rintro c ⟨⟩
      decide
    | cons first others =>
      rintro c ⟨⟩
      exact (isPlain_of_isDigit (ascii first List.mem_cons_self)).noSign

/-- A power of ten is read. Its digits are all that is left behind mark and sign, as the reader
wants it. -/
theorem IsPower.isSome_readPower? {power : List Char} (isPower : IsPower power) :
    (readPower? power).isSome = true := by
  cases isPower with
  | none => rfl
  | power isMark isSign isDigits =>
    have found := afterSign_append isSign (by simpa using isDigits.noSign [])
    have all := List.all_eq_true.2 isDigits.ascii
    rcases isMark with rfl | rfl <;> simp [readPower?, found, all, isDigits.given]

/-- Digits are found before a power of ten, which begins with none. -/
theorem IsPower.takeWhile_append {power digits : List Char} (isPower : IsPower power)
    (ascii : ∀ c ∈ digits, isAsciiDigit c = true) :
    (digits ++ power).takeWhile isAsciiDigit = digits ∧
      (digits ++ power).dropWhile isAsciiDigit = power := by
  rw [List.takeWhile_append_of_pos ascii, List.dropWhile_append_of_pos ascii]
  cases isPower with
  | none => exact ⟨List.append_nil digits, rfl⟩
  | power isMark isSign isDigits =>
    rcases isMark with rfl | rfl <;> exact ⟨List.append_nil digits, rfl⟩

/-- Digits with an optional fraction and power of ten are read. The first digits end at the point,
at the power or at the end, so the reader divides the text where the numeral does. -/
theorem IsDecimal.isSome_readDecimal? {decimal power : List Char} (isDecimal : IsDecimal decimal)
    (isPower : IsPower power) (negative : Bool) :
    (readDecimal? negative (decimal ++ power)).isSome = true := by
  have read := isPower.isSome_readPower?
  cases isDecimal with
  | whole isDigits =>
    obtain ⟨whole, rest⟩ := isPower.takeWhile_append isDigits.ascii
    rw [readDecimal?, whole, rest]
    cases isPower with
    | none => simp [isDigits.given, read]
    | power isMark isSign isDigits' =>
      rcases isMark with rfl | rfl <;> simp [isDigits.given, read]
  | @fraction whole digits ascii isDigits =>
    obtain ⟨fraction, rest⟩ := isPower.takeWhile_append isDigits.ascii
    have point : isAsciiDigit '.' = false := by decide
    have left : (whole ++ '.' :: (digits ++ power)).takeWhile isAsciiDigit = whole := by
      simp [List.takeWhile_append_of_pos ascii, point]
    have right : (whole ++ '.' :: (digits ++ power)).dropWhile isAsciiDigit =
        '.' :: (digits ++ power) := by
      simp [List.dropWhile_append_of_pos ascii, point]
    rw [List.append_assoc, List.cons_append, readDecimal?, left, right]
    simp [fraction, rest, isDigits.given, read]

/-- A numeral is converted. The words for infinity and the absent number are converted as well, so
it does not matter that they are tried first. -/
theorem IsNumeral.isSome_readMagnitude? {characters : List Char}
    (isNumeral : IsNumeral characters) (negative : Bool) :
    (readMagnitude? negative (afterSign characters)).isSome = true := by
  have noUnderscore : '_' ∉ characters := fun present =>
    (isNumeral.numeric _ present).plain.2.2 rfl
  cases isNumeral with
  | numeral isSign isDecimal isPower =>
    have absent := fun present => noUnderscore (List.mem_append_right _ present)
    rw [afterSign_append isSign (isDecimal.noSign _), readMagnitude?]
    split
    · rfl
    · split
      · rfl
      · rw [withoutUnderscores?_of_not_mem absent]
        exact isDecimal.isSome_readDecimal? isPower negative

/-! ## What is converted has no information separators -/

/-- One of the four information separators. -/
def IsSeparator (c : Char) : Prop := 0x1C ≤ c.toNat ∧ c.toNat ≤ 0x1F

/-- A blank may surround a number that is converted unless it is an information separator. -/
theorem isPadding_iff (c : Char) :
    isPadding c = true ↔ Text.isBlank c = true ∧ ¬IsSeparator c := by
  simp only [isPadding, IsSeparator, Bool.and_eq_true, Bool.not_eq_true', Bool.and_eq_false_iff,
    decide_eq_false_iff_not, not_and_or]

/-- An information separator stands for itself, and nothing that is converted is written with it. -/
structure IsForeign (c : Char) : Prop where
  noPadding : isPadding c = false
  self : asciiDigit c = c
  lower : c.toLower = c
  noSign : c ≠ '+' ∧ c ≠ '-'
  noUnderscore : c ≠ '_'
  noNumeral : ¬IsNumeric c
  noWord : ∀ word ∈ ["inf", "infinity", "nan"], c ∉ word.toList

/-- An information separator is foreign to what is converted. There are four of them, so each
condition is tested for each. -/
theorem IsSeparator.isForeign {c : Char} (separator : IsSeparator c) : IsForeign c := by
  obtain ⟨low, high⟩ := separator
  rw [← Char.ofNat_toNat c]
  interval_cases c.toNat <;> constructor <;> decide

/-- What stands before what follows the sign is the sign. -/
theorem numeric_of_afterSign {characters : List Char}
    (numeric : ∀ c ∈ afterSign characters, IsNumeric c) : ∀ c ∈ characters, IsNumeric c := by
  obtain ⟨sign, isSign, signed⟩ := exists_sign characters
  rw [signed, List.forall_mem_append]
  exact ⟨isSign.numeric, numeric⟩

/-- Digits at the beginning are written with what numerals are written with, so the rest decides. -/
theorem numeric_of_dropWhile {characters : List Char}
    (numeric : ∀ c ∈ characters.dropWhile isAsciiDigit, IsNumeric c) :
    ∀ c ∈ characters, IsNumeric c := by
  rw [← List.takeWhile_append_dropWhile (p := isAsciiDigit) (l := characters),
    List.forall_mem_append]
  exact ⟨fun c present => .inl (List.mem_takeWhile_imp present), numeric⟩

/-- What is read as a power of ten is written with what numerals are written with. -/
theorem numeric_of_readPower? {characters : List Char}
    (read : (readPower? characters).isSome = true) : ∀ c ∈ characters, IsNumeric c := by
  cases characters with
  | nil => exact List.forall_mem_nil _
  | cons mark rest =>
    by_cases reads : ((mark == 'e' || mark == 'E') && !(afterSign rest).isEmpty &&
        (afterSign rest).all isAsciiDigit) = true
    · simp only [Bool.and_eq_true, Bool.or_eq_true, beq_iff_eq, List.all_eq_true] at reads
      obtain ⟨⟨isMark, -⟩, ascii⟩ := reads
      rw [List.forall_mem_cons]
      refine ⟨?_, numeric_of_afterSign fun c present => .inl (ascii c present)⟩
      rcases isMark with rfl | rfl <;> decide
    · simp only [readPower?, if_neg reads] at read
      cases read

/-- What is read as digits with an optional fraction and power of ten is written with what numerals
are written with. Digits are taken off first, then a point and digits again, and what is left is
read as a power. -/
theorem numeric_of_readDecimal? {negative : Bool} {characters : List Char}
    (read : (readDecimal? negative characters).isSome = true) :
    ∀ c ∈ characters, IsNumeric c := by
  apply numeric_of_dropWhile
  unfold readDecimal? at read
  split at read
  rename_i fraction left splits
  have powered : (readPower? left).isSome = true := by
    dsimp only at read
    split at read
    · cases read
    · rwa [Option.isSome_map] at read
  split at splits
  · rename_i behind dropped
    cases splits
    rw [dropped, List.forall_mem_cons]
    exact ⟨by decide, numeric_of_dropWhile (numeric_of_readPower? powered)⟩
  · cases splits
    exact numeric_of_readPower? powered

/-- Only underscores are taken out. -/
theorem mem_withoutUnderscores? {afterDigit : Bool} {characters left : List Char} {c : Char}
    (taken : withoutUnderscores? afterDigit characters = some left) (present : c ∈ characters)
    (other : c ≠ '_') : c ∈ left := by
  induction characters generalizing afterDigit left with
  | nil => cases present
  | cons first rest inductionHypothesis =>
    unfold withoutUnderscores? at taken
    split at taken
    · contradiction
    · rename_i equal
      obtain ⟨rfl, rfl⟩ := List.cons.inj equal
      split at taken
      · exact inductionHypothesis taken ((List.mem_cons.1 present).resolve_left other)
      · cases taken
    · rename_i equal
      obtain ⟨rfl, rfl⟩ := List.cons.inj equal
      obtain ⟨later, ofRest, rfl⟩ := Option.map_eq_some_iff.1 taken
      rcases List.mem_cons.1 present with rfl | behind
      · exact List.mem_cons_self
      · exact List.mem_cons_of_mem _ (inductionHypothesis ofRest behind)

/-- Nothing foreign is converted. It would have to stand in one of the words, or be left where only
numerals are read, and it can do neither. -/
theorem IsForeign.not_isSome_readMagnitude? {c : Char} (foreign : IsForeign c) {negative : Bool}
    {characters : List Char} (present : c ∈ characters) :
    ¬(readMagnitude? negative characters).isSome = true := by
  intro read
  have unlike (word : String) (listed : word ∈ ["inf", "infinity", "nan"]) :
      (String.ofList (characters.map Char.toLower) == word) = false := by
    rw [beq_eq_false_iff_ne]
    rintro rfl
    apply foreign.noWord _ listed
    rw [String.toList_ofList]
    exact List.mem_map.2 ⟨c, present, foreign.lower⟩
  rw [readMagnitude?] at read
  simp only [unlike "inf" (by simp), unlike "infinity" (by simp), unlike "nan" (by simp),
    Bool.or_self, Bool.false_eq_true, if_false] at read
  obtain ⟨number, isNumber⟩ := Option.isSome_iff_exists.1 read
  obtain ⟨left, taken, isDecimal⟩ := Option.bind_eq_some_iff.1 isNumber
  have numeric := numeric_of_readDecimal? (Option.isSome_iff_exists.2 ⟨number, isDecimal⟩)
  exact foreign.noNumeral (numeric c (mem_withoutUnderscores? taken present foreign.noUnderscore))

/-- What is not the sign is left behind it. -/
theorem mem_afterSign {characters : List Char} {c : Char} (present : c ∈ characters)
    (other : c ≠ '+' ∧ c ≠ '-') : c ∈ afterSign characters := by
  unfold afterSign
  split
  · exact (List.mem_cons.1 present).resolve_left other.1
  · exact (List.mem_cons.1 present).resolve_left other.2
  · exact present

/-- A text with an information separator is not converted. It is not trimmed off, since it is no
blank to this reader, and the other steps keep it. -/
theorem not_isSome_readBinary64? {s : String} {c : Char} (present : c ∈ s.toList)
    (separator : IsSeparator c) : ¬(readBinary64? s).isSome = true := by
  have foreign := separator.isForeign
  have trimmed : c ∈ Text.trimBy isPadding s.toList :=
    Text.mem_trimBy present foreign.noPadding
  have written : c ∈ (Text.trimBy isPadding s.toList).map asciiDigit :=
    List.mem_map.2 ⟨c, trimmed, foreign.self⟩
  exact foreign.not_isSome_readMagnitude? (mem_afterSign written foreign.noSign)

/-- A text that looks like an integer or a number is converted exactly if it has no information
separators.

Proof: the text is a numeral between blanks. Without separators the blanks are those that the
conversion trims, and what is left is converted like any numeral. A separator is left by trimming,
and nothing that is converted is written with one. -/
theorem isSome_readBinary64?_iff {s : String}
    (looks : isIntegerText s.toList = true ∨ isNumberText s.toList = true) :
    (readBinary64? s).isSome = true ↔ ∀ c ∈ s.toList, ¬IsSeparator c := by
  constructor
  · intro converted c present separator
    exact not_isSome_readBinary64? present separator converted
  · intro noSeparator
    obtain ⟨before, core, after, split, padded⟩ : ∃ before core after,
        s.toList = before ++ (core ++ after) ∧ IsPaddedNumeral before core after :=
      looks.elim exists_numeral_of_isIntegerText exists_numeral_of_isNumberText
    rw [split, List.forall_mem_append, List.forall_mem_append] at noSeparator
    have trimmed : Text.trimBy isPadding s.toList = core := by
      rw [split]
      refine Text.trimBy_append ?first ?kept ?last
      case first =>
        exact fun c present => (isPadding_iff c).2 ⟨padded.first c present, noSeparator.1 c present⟩
      case kept =>
        intro c present
        rw [isPadding, padded.kept c present]
        rfl
      case last =>
        exact fun c present =>
          (isPadding_iff c).2 ⟨padded.last c present, noSeparator.2.2 c present⟩
    rw [readBinary64?, trimmed]
    exact padded.numeral.isSome_readMagnitude? _

end Numeral

end RecordValidation
