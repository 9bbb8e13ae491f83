import Mathlib.Data.List.TakeWhile
import Mathlib.Tactic.IntervalCases
import RecordValidation.Check.Amount
import RecordValidation.Proofs.NearestInteger
import RecordValidation.Value.Text

/-!
# The numeral of an integer

An integer is written as its digits with its sign (`toText_int`). Digits with a sign look like an
integer and like a number, and they are converted to the number nearest to what they write
(`readBinary64?_signed`), so the text of an integer is converted to the number nearest to the
integer (`readBinary64?_toText`).
-/

namespace RecordValidation.Numeral

/-! ## Digits -/

/-- A digit is a digit for every reading and nothing else: it stands for itself in either case, is
no blank, sign or underscore, and begins no word for a number. -/
structure IsPlain (c : Char) : Prop where
  ascii : isAsciiDigit c = true
  digit : Text.isDigit c = true
  notBlank : Text.isBlank c = false
  self : asciiDigit c = c
  lower : c.toLower = c
  noSign : c ≠ '+' ∧ c ≠ '-'
  noUnderscore : c ≠ '_'
  noWord : c ≠ 'i' ∧ c ≠ 'n'

/-- The ten digits of the decimal system are nothing else. -/
theorem isPlain_of_isDigit {c : Char} (isDigit : c.isDigit = true) : IsPlain c := by
  have bounds : 48 ≤ c.toNat ∧ c.toNat ≤ 57 := by
    simpa [Char.isDigit, UInt32.le_iff_toNat_le] using isDigit
  obtain ⟨low, high⟩ := bounds
  rw [← Char.ofNat_toNat c]
  interval_cases c.toNat <;> constructor <;> decide

/-! ## Readings of digits with a sign -/

/-- Where there are no underscores, none are taken out. -/
theorem withoutUnderscores?_of_not_mem {characters : List Char} (none : '_' ∉ characters)
    (afterDigit : Bool) : withoutUnderscores? afterDigit characters = some characters := by
  induction characters generalizing afterDigit with
  | nil => rfl
  | cons c rest inductionHypothesis =>
    obtain ⟨unlike, others⟩ := not_or.1 (List.mem_cons.not.1 none)
    unfold withoutUnderscores?
    split
    · contradiction
    · rename_i equal
      exact absurd (List.cons.inj equal).1.symm unlike
    · rename_i equal
      obtain ⟨rfl, rfl⟩ := List.cons.inj equal
      rw [inductionHypothesis others]
      rfl

/-- Digits with a minus sign in front, or without one. -/
def signed (negative : Bool) (digits : List Char) : List Char :=
  if negative then '-' :: digits else digits

section

variable {digits : List Char} (plain : ∀ c ∈ digits, IsPlain c)

include plain

/-- No character of digits with a sign is blank. -/
theorem not_blank_of_mem_signed (negative : Bool) :
    ∀ c ∈ signed negative digits, Text.isBlank c = false := by
  intro c present
  cases negative with
  | false => exact (plain c present).notBlank
  | true =>
    rcases List.mem_cons.1 present with rfl | isDigit
    · decide
    · exact (plain c isDigit).notBlank

/-- What follows the sign is the digits. -/
theorem afterSign_signed (negative : Bool) : afterSign (signed negative digits) = digits := by
  cases negative with
  | true => rfl
  | false =>
    change afterSign digits = digits
    unfold afterSign
    split
    · exact absurd rfl (plain _ List.mem_cons_self).noSign.1
    · exact absurd rfl (plain _ List.mem_cons_self).noSign.2
    · rfl

/-- A minus sign is seen exactly if there is one. -/
theorem isNegative_signed (negative : Bool) : isNegative (signed negative digits) = negative := by
  cases negative with
  | true => rfl
  | false =>
    change isNegative digits = false
    unfold isNegative
    split
    · exact absurd rfl (plain _ List.mem_cons_self).noSign.2
    · rfl

/-- Digits are all ASCII digits. -/
theorem takeWhile_isAsciiDigit : digits.takeWhile isAsciiDigit = digits :=
  List.takeWhile_eq_self_iff.2 fun c isDigit => (plain c isDigit).ascii

/-- Nothing is left after the digits. -/
theorem dropWhile_isAsciiDigit : digits.dropWhile isAsciiDigit = [] :=
  List.dropWhile_eq_nil_iff.2 fun c isDigit => (plain c isDigit).ascii

/-- Writing the digits of all scripts as ASCII digits leaves digits with a sign as they are, since
each of their characters stands for itself. -/
theorem map_asciiDigit_signed (negative : Bool) :
    (signed negative digits).map asciiDigit = signed negative digits := by
  have same : digits.map asciiDigit = digits :=
    (List.map_congr_left fun c isDigit => (plain c isDigit).self).trans (List.map_id digits)
  cases negative with
  | true => exact congrArg₂ List.cons (by decide) same
  | false => exact same

/-- Digits with a sign have no blanks at their ends. -/
theorem trimBy_signed (negative : Bool) :
    Text.trimBy isPadding (signed negative digits) = signed negative digits := by
  have noPadding (characters : List Char) (among : ∀ c ∈ characters, c ∈ signed negative digits) :
      characters.dropWhile isPadding = characters := by
    refine List.dropWhile_eq_self_iff.2 fun inside => ?_
    simp [isPadding, not_blank_of_mem_signed plain negative _ (among _ (List.getElem_mem inside))]
  rw [Text.trimBy, noPadding _ fun c present => present,
    noPadding _ fun c present => List.mem_reverse.1 present, List.reverse_reverse]

/-- Digits with a sign are left when blanks are dropped. -/
theorem dropWhile_isBlank_signed (negative : Bool) :
    (signed negative digits).dropWhile Text.isBlank = signed negative digits := by
  refine List.dropWhile_eq_self_iff.2 fun inside => ?_
  simp [not_blank_of_mem_signed plain negative _ (List.getElem_mem inside)]

variable (given : digits ≠ [])

include given

/-- Digits with a sign look like an integer. -/
theorem isIntegerText_signed (negative : Bool) : isIntegerText (signed negative digits) = true := by
  have all : digits.takeWhile Text.isDigit = digits :=
    List.takeWhile_eq_self_iff.2 fun c isDigit => (plain c isDigit).digit
  have rest : digits.dropWhile Text.isDigit = [] :=
    List.dropWhile_eq_nil_iff.2 fun c isDigit => (plain c isDigit).digit
  simp [isIntegerText, dropWhile_isBlank_signed plain, afterSign_signed plain, all, rest, given]

/-- Digits with a sign look like a number. -/
theorem isNumberText_signed (negative : Bool) : isNumberText (signed negative digits) = true := by
  simp [isNumberText, dropWhile_isBlank_signed plain, afterSign_signed plain, afterDecimal?,
    takeWhile_isAsciiDigit plain, dropWhile_isAsciiDigit plain, given, afterExponent]

/-- Digits are none of the words for infinity and the absent number. These begin with a letter, and
a digit stays a digit in lower case. -/
theorem word_ne {word : String}
    (letter : word.toList.head? = some 'i' ∨ word.toList.head? = some 'n') :
    (String.ofList (digits.map Char.toLower) == word) = false := by
  have same : digits.map Char.toLower = digits :=
    (List.map_congr_left fun c isDigit => (plain c isDigit).lower).trans (List.map_id digits)
  rw [same, beq_eq_false_iff_ne]
  rintro rfl
  obtain ⟨c, rest, rfl⟩ := List.exists_cons_of_ne_nil given
  obtain ⟨noI, noN⟩ := (plain c List.mem_cons_self).noWord
  rcases letter with isI | isN
  · exact noI (by simpa using isI)
  · exact noN (by simpa using isN)

/-- Digits with a sign are converted to the number nearest to the integer they write. The reader
trims, takes the sign, looks for words, takes out underscores and reads digits, and each step finds
the digits as they were. -/
theorem readBinary64?_signed (negative : Bool) :
    readBinary64? (String.ofList (signed negative digits)) =
      some (scaledDecimal negative (digitsValue digits) 0) := by
  have noUnderscore : '_' ∉ digits := fun present => (plain _ present).noUnderscore rfl
  have decimal : readDecimal? negative digits =
      some (scaledDecimal negative (digitsValue digits) 0) := by
    simp [readDecimal?, takeWhile_isAsciiDigit plain, dropWhile_isAsciiDigit plain, given,
      readPower?]
  rw [readBinary64?]
  simp only [String.toList_ofList, trimBy_signed plain, map_asciiDigit_signed plain,
    isNegative_signed plain, afterSign_signed plain, readMagnitude?]
  rw [word_ne plain given (.inl rfl), word_ne plain given (.inl rfl),
    word_ne plain given (.inr rfl), withoutUnderscores?_of_not_mem noUnderscore]
  exact decimal

end

/-! ## The text of an integer -/

/-- The digits that are written for a natural number are worth the number. -/
theorem digitsValue_toDigits (n : Nat) : digitsValue (Nat.toDigits 10 n) = n := by
  have worth : Nat.ofDigitChars 10 (Nat.toDigits 10 n) 0 = n := Nat.ofDigitChars_ten_toDigits
  rwa [Nat.ofDigitChars_eq_foldl] at worth

/-- A natural number of more than 400 places is out of reach, so that leaving the computation out
makes no difference. Such a number has more than 1200 bits, and both ways give an infinity; one that
is shorter is computed. -/
theorem scaledDecimal_zero (negative : Bool) (n : Nat) :
    scaledDecimal negative n 0 = Binary64.ofRatio negative n 1 := by
  by_cases zero : n = 0
  · subst zero
    rfl
  · simp only [scaledDecimal, if_neg zero]
    by_cases long : 400 < (0 : Int) + (Nat.toDigits 10 n).length
    · obtain ⟨places, counted⟩ : ∃ places, (Nat.toDigits 10 n).length = places + 1 :=
        ⟨(Nat.toDigits 10 n).length - 1, by omega⟩
      have beyond : 10 ^ places ≤ n := by
        rw [← not_lt, ← Nat.length_toDigits_le_iff (by decide) (by omega)]
        omega
      have huge : 2 ^ (3 * places) ≤ n :=
        calc 2 ^ (3 * places) = (2 ^ 3) ^ places := Nat.pow_mul ..
          _ ≤ 10 ^ places := Nat.pow_le_pow_left (by decide) places
          _ ≤ n := beyond
      rw [if_pos long, Binary64.ofRatio_of_huge negative (by omega) huge]
    · have near : ¬(0 : Int) + (Nat.toDigits 10 n).length < -400 := by omega
      have unscaled : n * Nat.pow 10 (0 : Int).toNat = n := Nat.mul_one n
      rw [if_neg long, if_neg near, if_pos le_rfl, unscaled]

/-- An integer is written as its digits with its sign. A negative integer is written as the digits
of its size, with the sign in front. -/
theorem toText_int (n : Int) :
    (Value.int n).toText = String.ofList (signed (n < 0) (Nat.toDigits 10 n.natAbs)) := by
  have written : (Value.int n).toText = Int.repr n := by
    unfold Value.toText
    dsimp only
    unfold Value.shown
    exact Int.toString_eq_repr
  rw [written]
  cases n with
  | ofNat n =>
    have natural : Int.repr (.ofNat n) = n.repr := rfl
    rw [natural, Nat.repr_eq_ofList_toDigits]
    rfl
  | negSucc n =>
    have negated : Int.repr (.negSucc n) = String.ofList ['-'] ++ (n + 1).repr := rfl
    have sign : decide (Int.negSucc n < 0) = true := decide_eq_true (Int.negSucc_lt_zero n)
    rw [negated, Nat.repr_eq_ofList_toDigits, ← String.ofList_append, sign, Int.natAbs_negSucc]
    rfl

/-- The digits that are written for a natural number are nothing else. -/
theorem isPlain_toDigits (n : Nat) : ∀ c ∈ Nat.toDigits 10 n, IsPlain c := fun _ present =>
  isPlain_of_isDigit (Nat.isDigit_of_mem_toDigits (by decide) (by decide) present)

/-- The text of an integer is converted to the number nearest to the integer. -/
theorem readBinary64?_toText (n : Int) :
    readBinary64? (Value.int n).toText = some (Binary64.nearest n) := by
  rw [toText_int, readBinary64?_signed (isPlain_toDigits _) Nat.toDigits_ne_nil,
    digitsValue_toDigits, scaledDecimal_zero]
  rfl

end RecordValidation.Numeral
