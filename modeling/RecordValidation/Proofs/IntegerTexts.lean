import RecordValidation.Proofs.IntegerNumerals
import RecordValidation.Proofs.NumberBounds

/-!
# Integers and their texts under a check

A check on a number compares an integer as it is, and the decimal text of one as the binary64 number
nearest to it (`NumberSettings.amount?_toText`). The two are complained about alike if the nearest
number is on the same sides of the bounds as the integer (`ValidatorOf.verdict_toText_eq`), as it is
for integers of the format and for bounds of at most 53 bits
(`NumberSettings.sameSides_of_isNearest`). `integer_text_judged_exact` puts this together, and
`text_accepted_beyond_bound` is an integer that is refused while its text is accepted.
-/

namespace RecordValidation

namespace NumberSettings

/-- The bound that an integer gives, or the absent one. -/
def boundOf : Option Int → Value
  | none => .null
  | some limit => .int limit

/-- The bounds of a check are integers, where there are any. -/
structure HasIntegerBounds (settings : NumberSettings) (least? most? : Option Int) : Prop where
  least : settings.least = boundOf least?
  most : settings.most = boundOf most?

/-- What holds of the place of an integer bound in the order is what holds of the integer, if there
is one. -/
theorem forall_extended?_boundOf (limit? : Option Int) (property : Extended → Prop) :
    (∀ x ∈ (boundOf limit?).extended?, property x) ↔
      ∀ limit ∈ limit?, property (Extended.finite limit) := by
  cases limit? with
  | none => exact iff_of_true (fun _ absent => nomatch absent) fun _ absent => nomatch absent
  | some limit =>
    have isLimit : (boundOf (some limit)).extended? = some (Extended.finite limit) :=
      Quantity.extended?_ofInt limit
    simp [isLimit]

/-- Integers can be given as bounds. -/
theorem HasIntegerBounds.bounded {settings : NumberSettings} {least? most? : Option Int}
    (integers : settings.HasIntegerBounds least? most?) : settings.Bounded := by
  have isBound (limit? : Option Int) : (boundOf limit?).IsBound := by
    cases limit? with
    | none => exact .inl rfl
    | some limit => exact .inr rfl
  constructor
  · rw [integers.least]
    exact isBound least?
  · rw [integers.most]
    exact isBound most?

/-- Quantities on the same sides of the bounds are complained about alike. A complaint depends on
the two answers about the bounds and on nothing else of the quantity. -/
theorem complaintOnQuantity_congr {settings : NumberSettings} (bounded : settings.Bounded)
    {a b : Quantity} {x y : Extended} (isX : a.extended? = some x) (isY : b.extended? = some y)
    (least : ∀ limit ∈ settings.least.extended?, x < limit ↔ y < limit)
    (most : ∀ limit ∈ settings.most.extended?, limit < x ↔ limit < y) :
    settings.complaintOnQuantity a = settings.complaintOnQuantity b := by
  obtain ⟨lowA, answersLowA, isUnderA⟩ := a.isUnder_of_isBound bounded.least
  obtain ⟨lowB, answersLowB, isUnderB⟩ := b.isUnder_of_isBound bounded.least
  obtain ⟨highA, answersHighA, isOverA⟩ := a.isOver_of_isBound bounded.most
  obtain ⟨highB, answersHighB, isOverB⟩ := b.isOver_of_isBound bounded.most
  have sameLow : lowA = lowB := by
    rw [Bool.eq_iff_iff, isUnderA, isUnderB, isX, isY]
    simpa using exists_congr fun limit => and_congr_right (least limit)
  have sameHigh : highA = highB := by
    rw [Bool.eq_iff_iff, isOverA, isOverB, isX, isY]
    simpa using exists_congr fun limit => and_congr_right (most limit)
  simp only [complaintOnQuantity, answersLowA, answersLowB, answersHighA, answersHighB, sameLow,
    sameHigh]

/-- A number or infinity is on the same sides of the bounds as an integer: below the lower one or
not, and above the upper one or not. -/
structure SameSides (n : Int) (amount : Extended) (least? most? : Option Int) : Prop where
  least : ∀ least ∈ least?, (amount < Extended.finite least ↔ n < least)
  most : ∀ most ∈ most?, (Extended.finite most < amount ↔ most < n)

/-- Rounding leaves an integer on the same sides of the bounds if it is of the format or the bounds
have at most 53 bits. Each bound is on one side of the integer, and `IsNearest.same_side` says that
rounding respects this. -/
theorem sameSides_of_isNearest {n : Int} {amount : Extended} {least? most? : Option Int}
    (nearest : Binary64.IsNearest n amount)
    (near : Binary64.Represents n.natAbs ∨
      (∀ least ∈ least?, least.natAbs < 2 ^ 53) ∧ ∀ most ∈ most?, most.natAbs < 2 ^ 53) :
    SameSides n amount least? most? := by
  constructor
  · intro least isLeast
    exact (nearest.same_side (near.imp_right fun small => small.1 least isLeast)).1
  · intro most isMost
    exact (nearest.same_side (near.imp_right fun small => small.2 most isMost)).2

/-- The text of an integer counts as the number nearest to the integer, whether or not fractions are
allowed. It looks like a number and like an integer, so it is converted by either setting. -/
theorem amount?_toText (settings : NumberSettings) (n : Int) :
    settings.amount? (.text (Value.int n).toText) =
      .ok (some (Binary64.nearest n).quantity) := by
  have accepted : settings.accepts (Value.int n).toText = true := by
    have plain := Numeral.isPlain_toDigits n.natAbs
    have given : Nat.toDigits 10 n.natAbs ≠ [] := Nat.toDigits_ne_nil
    simp [accepts, Numeral.toText_int, Numeral.isIntegerText_signed plain given,
      Numeral.isNumberText_signed plain given]
  rw [amount?, if_pos accepted, quantityOfText, Numeral.readBinary64?_toText]
  rfl

end NumberSettings

namespace ValidatorOf

variable {ρ : Type} {host : Host ρ} {name : Value} {session textual : Session ρ}

/-- A complaint is worded alike in two sessions in which the attribute is called alike. The wording
has the label and the complaint in it, and no other part of the session. -/
theorem outcome_word_congr
    (sameLabel : (host.labelOf name).outcome textual = (host.labelOf name).outcome session)
    (complaint : Option Complaint) :
    (word host name complaint).outcome textual = (word host name complaint).outcome session := by
  cases complaint with
  | none => rfl
  | some complaint => rw [outcome_word_some, outcome_word_some, sameLabel]

section

variable {validator : Validator} {settings : NumberSettings} {least? most? : Option Int}
  (checks : validator.ChecksNumber settings)
  (integers : settings.HasIntegerBounds least? most?)

include checks integers

/-- A value that counts as a quantity that can be ordered is accepted exactly if the quantity is
within the bounds. Since it can be ordered, the two answers of no say that it is within. -/
theorem accepts_iff {value : Value} {quantity : Quantity} {amount : Extended}
    (read : host.read session.record name = .ok value)
    (counts : settings.amount? value = .ok (some quantity))
    (isAmount : quantity.extended? = some amount) :
    (validator.verdict host name).outcome session = .ok [] ↔
      (∀ least ∈ least?, Extended.finite least ≤ amount) ∧
        ∀ most ∈ most?, amount ≤ Extended.finite most := by
  rw [verdict_eq_nil_iff checks read, NumberSettings.complaint?_of_counts counts,
    NumberSettings.complaintOnQuantity_eq_none_iff integers.bounded, isAmount]
  simp only [Option.mem_def, Option.some.injEq, forall_eq', NumberSettings.Spans, integers.least,
    integers.most]
  simp only [← Option.mem_def, NumberSettings.forall_extended?_boundOf]

/-- An integer is accepted exactly if it is within the bounds. -/
theorem accepts_int_iff {n : Int} (read : host.read session.record name = .ok (.int n)) :
    (validator.verdict host name).outcome session = .ok [] ↔
      (∀ least ∈ least?, least ≤ n) ∧ ∀ most ∈ most?, n ≤ most := by
  rw [accepts_iff checks integers read rfl (Quantity.extended?_ofInt n)]
  simp only [Extended.finite_le_finite, Int.cast_le]

/-- An integer and its text are judged alike if what the integer is rounded to is on the same sides
of the bounds. The complaints are the same because the sides are, and the labels in them are the
same by the premise. -/
theorem verdict_toText_eq {n : Int} {amount : Extended}
    (read : host.read session.record name = .ok (.int n))
    (readText : host.read textual.record name = .ok (.text (Value.int n).toText))
    (sameLabel : (host.labelOf name).outcome textual = (host.labelOf name).outcome session)
    (isAmount : (Binary64.nearest n).quantity.extended? = some amount)
    (sameSides : NumberSettings.SameSides n amount least? most?) :
    (validator.verdict host name).outcome textual =
      (validator.verdict host name).outcome session := by
  have counts : settings.amount? (.int n) = .ok (some (.ofInt n)) := rfl
  have alike : settings.complaintOnQuantity (Binary64.nearest n).quantity =
      settings.complaintOnQuantity (.ofInt n) := by
    refine NumberSettings.complaintOnQuantity_congr integers.bounded isAmount
      (Quantity.extended?_ofInt n) ?_ ?_
    · rw [integers.least, NumberSettings.forall_extended?_boundOf]
      intro least isLeast
      rw [sameSides.least least isLeast, Extended.finite_lt_finite, Int.cast_lt]
    · rw [integers.most, NumberSettings.forall_extended?_boundOf]
      intro most isMost
      rw [sameSides.most most isMost, Extended.finite_lt_finite, Int.cast_lt]
  rw [outcome_verdict_of_checksNumber checks read, outcome_verdict_of_checksNumber checks readText,
    NumberSettings.complaint?_of_counts counts,
    NumberSettings.complaint?_of_counts (settings.amount?_toText n), alike]
  simp only [outcome_word_congr sameLabel]

end

end ValidatorOf

/-- How a check on a number judges an integer and its decimal text.

Take an integer, and two sessions in which an attribute is called alike: in one it has the integer
for its value, in the other the text of the integer. A conversion rounds the integer to the nearest
binary64 number, or to an infinity if the integer is beyond them all, and with that the text is
judged. A validator that checks numbers, with bounds that are integers or absent, accepts the
integer exactly if it is within the bounds, and the text exactly if the nearest number is, whether
or not only integers are allowed. It answers alike for both if the nearest number is on the same
sides of the bounds as the integer. So it does for all bounds if the integer is a binary64 number,
and for all integers if the bounds have at most 53 bits. For an integer that is no binary64 number
there are bounds within which it lies and the number nearest to it does not, so that the text is
refused.

Proof: the text is read as the number nearest to the integer. On the same sides of the bounds there
are the same complaints. Where rounding changes the integer, the integer itself is a bound that the
nearest number is beyond. -/
theorem integer_text_judged_exact {ρ : Type} {host : Host ρ} {n : Int} {name : Value}
    {session textual : Session ρ} (read : host.read session.record name = .ok (.int n))
    (readText : host.read textual.record name = .ok (.text (Value.int n).toText))
    (sameLabel : (host.labelOf name).outcome textual = (host.labelOf name).outcome session) :
    ∃ amount, (Binary64.nearest n).quantity.extended? = some amount ∧
      Binary64.IsNearest n amount ∧
      (∀ (validator : Validator) (settings : NumberSettings) (least? most? : Option Int),
        validator.ChecksNumber settings → settings.HasIntegerBounds least? most? →
          ((validator.verdict host name).outcome session = .ok [] ↔
            (∀ least ∈ least?, least ≤ n) ∧ ∀ most ∈ most?, n ≤ most) ∧
          ((validator.verdict host name).outcome textual = .ok [] ↔
            (∀ least ∈ least?, Extended.finite least ≤ amount) ∧
              ∀ most ∈ most?, amount ≤ Extended.finite most) ∧
          (NumberSettings.SameSides n amount least? most? →
            (validator.verdict host name).outcome textual =
              (validator.verdict host name).outcome session)) ∧
      (∀ least? most? : Option Int, Binary64.Represents n.natAbs ∨
          (∀ least ∈ least?, least.natAbs < 2 ^ 53) ∧ (∀ most ∈ most?, most.natAbs < 2 ^ 53) →
        NumberSettings.SameSides n amount least? most?) ∧
      (¬Binary64.Represents n.natAbs → ∃ least? most? : Option Int,
        ∀ (validator : Validator) (settings : NumberSettings),
          validator.ChecksNumber settings → settings.HasIntegerBounds least? most? →
            (validator.verdict host name).outcome session = .ok [] ∧
              (validator.verdict host name).outcome textual ≠ .ok []) := by
  obtain ⟨amount, isAmount, nearest⟩ := Binary64.isNearest_nearest n
  have acceptsText {validator : Validator} {settings : NumberSettings} {least? most? : Option Int}
      (checks : validator.ChecksNumber settings)
      (integers : settings.HasIntegerBounds least? most?) :=
    ValidatorOf.accepts_iff checks integers readText (settings.amount?_toText n) isAmount
  refine ⟨amount, isAmount, nearest, ?judged, fun _ _ => ?near, ?apart⟩
  case near => exact NumberSettings.sameSides_of_isNearest nearest
  case judged =>
    intro validator settings least? most? checks integers
    exact ⟨ValidatorOf.accepts_int_iff checks integers read, acceptsText checks integers,
      ValidatorOf.verdict_toText_eq checks integers read readText sameLabel isAmount⟩
  case apart =>
    intro rounded
    have changed : amount ≠ Extended.finite n := fun same => rounded (nearest.eq_iff.1 same)
    rcases changed.lt_or_gt with below | above
    · refine ⟨some n, none, fun validator settings checks integers => ⟨?_, fun accepted => ?_⟩⟩
      · exact (ValidatorOf.accepts_int_iff checks integers read).2 (by simp)
      · exact below.not_ge (((acceptsText checks integers).1 accepted).1 n rfl)
    · refine ⟨none, some n, fun validator settings checks integers => ⟨?_, fun accepted => ?_⟩⟩
      · exact (ValidatorOf.accepts_int_iff checks integers read).2 (by simp)
      · exact above.not_ge (((acceptsText checks integers).1 accepted).2 n rfl)

/-- A record with a year. -/
def PlainRecord.ofYear (year : Value) : PlainRecord := ⟨⟨[("year", year)]⟩, none⟩

/-- Work on a record with a year that begins without errors. -/
def PlainRecord.yearSession (year : Value) : Session PlainRecord :=
  { record := .ofYear year, errors := .empty, events := [] }

/-- The check that a year is an integer and not after a last one. -/
def Validator.yearsUpTo (last : Int) : Validator := { Validator.marking [.text "year"] [] [] with
  check := .integer (Arguments.numberSettings [("max", .int last)] true) }

open PlainRecord in
/-- The year 1984 and its text are judged alike by a check that allows no year after 1999. -/
theorem integer_text_judged_exact_year :
    (Value.int 1984).toText = "1984" ∧
      construct .integer (.list ["year"]) [("max", .int 1999)] = .ok (.yearsUpTo 1999) ∧
      let verdict := (Validator.yearsUpTo 1999).verdict (ofYear .null).host "year"
      verdict.outcome (yearSession "1984") = verdict.outcome (yearSession (.int 1984)) ∧
        verdict.outcome (yearSession "1984") = .ok [] := by
  have written : (Value.int 1984).toText = "1984" := by decide +kernel
  have read : (ofYear .null).host.read (yearSession (.int 1984)).record "year" =
    .ok (.int 1984) := rfl
  have readText : (ofYear .null).host.read (yearSession "1984").record "year" =
      .ok (.text (Value.int 1984).toText) := by
    rw [written]
    rfl
  obtain ⟨amount, -, -, judged, near, -⟩ := integer_text_judged_exact read readText rfl
  obtain ⟨accepts, -, alike⟩ := judged (.yearsUpTo 1999) _ none (some 1999) (.inr rfl) ⟨rfl, rfl⟩
  have same := alike (near none (some 1999) (.inr ⟨by simp, by simp⟩))
  exact ⟨written, rfl, same, same.trans (accepts.2 (by simp))⟩

open PlainRecord in
/-- The year `2 ^ 53 + 1` is refused by a check that allows none after `2 ^ 53`, and its text is
accepted, although the year is an integer beyond the bound. -/
theorem text_accepted_beyond_bound :
    (Value.int (2 ^ 53 + 1)).toText = "9007199254740993" ∧
      construct .integer (.list ["year"]) [("max", .int (2 ^ 53))] =
        .ok (.yearsUpTo (2 ^ 53)) ∧
      let verdict := (Validator.yearsUpTo (2 ^ 53)).verdict (ofYear .null).host "year"
      (verdict.outcome (yearSession (.int (2 ^ 53 + 1)))).toOption.map (List.map Value.toText) =
          some ["year must be no greater than 9007199254740992."] ∧
        verdict.outcome (yearSession "9007199254740993") = .ok [] :=
  ⟨by decide +kernel, rfl, by decide +kernel, rfl⟩

end RecordValidation
