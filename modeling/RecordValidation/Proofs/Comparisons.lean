import RecordValidation.Proofs.Answers
import RecordValidation.Proofs.Distinct
import RecordValidation.Proofs.NearestInteger

/-!
# Answers of a comparison

A value is compared with its target as a text or as a number. As texts all values can be compared.
As numbers they can be too, or stand in no relation, but for integers that are too large: one stops
the comparison if it has to be converted (`ComparedAs.Overflows`), and the target only has to be if
the value counts as a number. `Relation.relates_of_overflows` and `Relation.exists_relates` say that
nothing else stops it.

On a plain record there always is a value and a target, so `comparison_answers_exact` says in full
when a comparison answers. `comparison_stops_beyond_numbers` is one that does not.
-/

namespace RecordValidation

namespace Value

/-- A value is an integer that is too large for a finite number. -/
def TooLarge (value : Value) : Prop :=
  ∃ n : Int, value = .int n ∧ Binary64.overflowThreshold ≤ n.natAbs

/-- A value is a number, a truth value or the text of a number, in the range of numbers. -/
def IsNumeric (value : Value) : Prop := ∃ number, value.asNumber = .ok (some number)

/-- An integer that is too large cannot be converted. -/
theorem TooLarge.asNumber {value : Value} (large : value.TooLarge) :
    value.asNumber = .error .overflow := by
  obtain ⟨n, rfl, large⟩ := large
  have unbounded : Binary64.ofInt? n = none := (Binary64.ofInt?_eq_none_iff n).2 large
  simp only [Value.asNumber, unbounded]

/-- Any other value is some number or none. Texts and truth values are never too large: a text may
be read as an infinity. -/
theorem exists_asNumber {value : Value} (inRange : ¬value.TooLarge) :
    ∃ number?, value.asNumber = .ok number? := by
  cases value with
  | int n =>
    have bounded : Binary64.ofInt? n ≠ none := fun unbounded =>
      inRange ⟨n, rfl, (Binary64.ofInt?_eq_none_iff n).1 unbounded⟩
    obtain ⟨number, isNumber⟩ := Option.ne_none_iff_exists'.1 bounded
    exact ⟨some number, by simp only [asNumber, isNumber]⟩
  | _ => exact ⟨_, rfl⟩

end Value

/-- An integer that is too large has to be converted when a value is compared with a target: the
value itself, or the target if the value counts as a number. -/
def ComparedAs.Overflows (comparedAs : ComparedAs) (value target : Value) : Prop :=
  comparedAs = .number ∧ (value.TooLarge ∨ value.IsNumeric ∧ target.TooLarge)

namespace Relation

variable {comparedAs : ComparedAs} {value target : Value}

/-- A comparison stops at an integer that is too large. The value is converted first, and the target
only if that gives a number. -/
theorem relates_of_overflows (relation : Relation)
    (overflows : comparedAs.Overflows value target) :
    relation.relates comparedAs value target = .error .overflow := by
  obtain ⟨rfl, large | ⟨⟨number, isNumber⟩, large⟩⟩ := overflows
  · rw [relates, relatesNumbers, large.asNumber]
    rfl
  · rw [relates, relatesNumbers, isNumber, large.asNumber]
    rfl

/-- A comparison as numbers that does not stop finds no relation between values that are not both
numbers. One of the two has no number, and the comparison ends where that shows. -/
theorem relates_of_not_numeric (relation : Relation)
    (steady : ¬ComparedAs.number.Overflows value target)
    (other : ¬(value.IsNumeric ∧ target.IsNumeric)) :
    relation.relates .number value target = .ok false := by
  have valueInRange : ¬value.TooLarge := fun large => steady ⟨rfl, .inl large⟩
  obtain ⟨number?, isNumber⟩ := Value.exists_asNumber valueInRange
  rw [relates, relatesNumbers, isNumber]
  cases number? with
  | none => rfl
  | some number =>
    -- Only now is the target converted, so only now may it not be too large.
    have targetInRange : ¬target.TooLarge := fun large =>
      steady ⟨rfl, .inr ⟨⟨number, isNumber⟩, large⟩⟩
    obtain ⟨another?, isAnother⟩ := Value.exists_asNumber targetInRange
    cases another? with
    | none =>
      rw [isAnother]
      rfl
    | some another => exact absurd ⟨⟨number, isNumber⟩, another, isAnother⟩ other

/-- A comparison that does not stop finds the relation to hold or not. As texts they are always
compared, and as numbers if both are numbers. -/
theorem exists_relates (relation : Relation)
    (steady : ¬comparedAs.Overflows value target) :
    ∃ related, relation.relates comparedAs value target = .ok related := by
  cases comparedAs with
  | string => exact ⟨_, rfl⟩
  | number =>
    by_cases numeric : value.IsNumeric ∧ target.IsNumeric
    · obtain ⟨⟨number, isNumber⟩, another, isAnother⟩ := numeric
      rw [relates, relatesNumbers, isNumber, isAnother]
      exact ⟨_, rfl⟩
    · exact ⟨false, relation.relates_of_not_numeric steady numeric⟩

end Relation

namespace PlainRecord

variable (plain : PlainRecord) (session : Session PlainRecord)

/-- Every attribute of a plain record has a value. -/
theorem exists_read {name : Value} (named : name.IsName) :
    ∃ value, plain.host.read session.record name = .ok value := by
  change ∃ value, session.record.read name = .ok value
  rw [read, Value.asName_of_isName named]
  exact ⟨_, rfl⟩

/-- Every attribute of a plain record is called something, by its own name if there is no label for
it. -/
theorem exists_label {name : Value} (named : name.IsName) :
    ∃ label, (plain.host.labelOf name).outcome session = .ok label := by
  have answered : ∃ given, label session.record name = .ok given := by
    rw [label, Value.asName_of_isName named]
    exact ⟨_, rfl⟩
  obtain ⟨values, labels?⟩ := plain
  cases labels? with
  | none => exact ⟨name, rfl⟩
  | some labels =>
    change ∃ given, (Act.ofOutcome (label session.record name) :
      Act PlainRecord Value).outcome session = .ok given
    rwa [Act.outcome_ofOutcome]

/-- There always is a target to compare with in a plain record. It is the constant, if there is one,
and otherwise another attribute, which has a value and is called something. -/
theorem exists_target {other : Value} (constant name : Value) (otherNamed : other.IsName) :
    ∃ target, (Target.find plain.host other constant name).outcome session = .ok target := by
  unfold Target.find
  by_cases absent : constant.isNull = true
  · have named : (other.orDefault (name.toText ++ "_repeat")).IsName := by
      unfold Value.orDefault
      split
      · exact otherNamed
      · exact Value.isName_text _
    obtain ⟨value, read⟩ := plain.exists_read session named
    obtain ⟨label, labelled⟩ := plain.exists_label session named
    refine ⟨⟨value, label⟩, ?_⟩
    rw [if_pos absent, Host.outcome_get_bind read, Host.outcome_labelOf_bind, labelled]
    rfl
  · rw [if_neg absent]
    exact ⟨_, rfl⟩

end PlainRecord

namespace ValidatorOf

variable {ρ : Type} {host : Host ρ} {name : Value} {session : Session ρ} {validator : Validator}
  {other constant value : Value} {relation : Relation} {comparedAs : ComparedAs} {target : Target}
  (compares : validator.check = .compare other constant relation comparedAs)
  (read : host.read session.record name = .ok value)
  (found : (Target.find host other constant name).outcome session = .ok target)

include compares read found

/-- A comparison that has to convert an integer that is too large stops there. -/
theorem outcome_verdict_of_overflows (overflows : comparedAs.Overflows value target.value) :
    (validator.verdict host name).outcome session = .error .overflow := by
  rw [outcome_verdict_of_compares compares read found, Relation.complaint?,
    relation.relates_of_overflows overflows]
  rfl

/-- A comparison says nothing about a value that is related to its target. -/
theorem outcome_verdict_of_related
    (related : relation.relates comparedAs value target.value = .ok true) :
    (validator.verdict host name).outcome session = .ok [] := by
  rw [outcome_verdict_of_compares compares read found, Relation.complaint?, related]
  rfl

/-- A comparison has one message about a value that is not related to its target. The template of a
relation is a text, and so is what is given in place of it. -/
theorem isMessage_verdict_of_unrelated {label : Value}
    (labelled : (host.labelOf name).outcome session = .ok label)
    (wording : validator.message.IsWording)
    (unrelated : relation.relates comparedAs value target.value = .ok false) :
    IsMessage ((validator.verdict host name).outcome session) := by
  rw [outcome_verdict_of_compares compares read found, Relation.complaint?, unrelated]
  exact isMessage_word labelled (wording.orDefault relation.complaint)

end ValidatorOf

/-- What a comparison on a plain record comes to.

Take a validator that compares by any relation, as texts or as numbers, with a constant or with
another attribute, which may be any name, and a plain record. There are a value and a target, of any
kinds. If an integer that is too large for a finite number has to be converted, the comparison stops
with an overflow. It answers with no message or one in every other case.

Proof: a plain record has a value and a label for every name. What stops a comparison is a
conversion, and only integers that are too large stop that. -/
theorem comparison_answers_exact {plain : PlainRecord} {session : Session PlainRecord}
    {validator : Validator} {other constant name : Value} {relation : Relation}
    {comparedAs : ComparedAs}
    (compares : validator.check = .compare other constant relation comparedAs)
    (wording : validator.message.IsWording) (named : name.IsName) (otherNamed : other.IsName) :
    ∃ (value : Value) (target : Target), plain.host.read session.record name = .ok value ∧
      (Target.find plain.host other constant name).outcome session = .ok target ∧
      (comparedAs.Overflows value target.value →
        (validator.verdict plain.host name).outcome session = .error .overflow) ∧
      (¬comparedAs.Overflows value target.value →
        ValidatorOf.IsAnswer ((validator.verdict plain.host name).outcome session)) := by
  obtain ⟨value, read⟩ := plain.exists_read session named
  obtain ⟨label, labelled⟩ := plain.exists_label session named
  obtain ⟨target, found⟩ := plain.exists_target session constant name otherNamed
  refine ⟨value, target, read, found, fun overflows => ?_, fun steady => ?_⟩
  · exact ValidatorOf.outcome_verdict_of_overflows compares read found overflows
  · obtain ⟨related, isRelated⟩ := relation.exists_relates steady
    cases related with
    | true => exact .inl (ValidatorOf.outcome_verdict_of_related compares read found isRelated)
    | false =>
      exact .inr (ValidatorOf.isMessage_verdict_of_unrelated compares read found labelled wording
        isRelated)

/-- The least integer that is too large is compared as a text with the attribute that repeats it,
which the record does not have. -/
theorem comparison_answers_exact_text :
    let value : Value := .int Binary64.overflowThreshold
    ∃ validator, construct .compare (.list ["v"]) [] = .ok validator ∧ value.TooLarge ∧
      ValidatorOf.IsAnswer ((validator.verdict (PlainRecord.ofValue value).host "v").outcome
        (PlainRecord.valueSession value)) := by
  intro value
  have built : ∃ validator, construct .compare (.list ["v"]) [] = .ok validator ∧
      validator.check = .compare .null .null .equal .string ∧ validator.message.IsWording :=
    ⟨_, rfl, rfl, nofun⟩
  obtain ⟨validator, constructed, compares, wording⟩ := built
  have asText (value target : Value) : ¬ComparedAs.string.Overflows value target :=
    fun overflows => nomatch overflows.1
  obtain ⟨_, _, -, -, -, answers⟩ := @comparison_answers_exact (.ofValue value)
    (PlainRecord.valueSession value) validator .null .null "v" .equal .string compares wording rfl
    rfl
  exact ⟨validator, constructed, ⟨_, rfl, le_rfl⟩, answers (asText _ _)⟩

/-- An integer of 310 digits is compared with one as a number. It is not equal to it, and there is
no message that says so. -/
theorem comparison_stops_beyond_numbers :
    let value : Value := .int (10 ^ 309)
    ∃ validator, construct .compare (.list ["v"])
        [("compare_value", .int 1), ("operator", "=="), ("type", "number")] = .ok validator ∧
      (validator.verdict (PlainRecord.ofValue value).host "v").outcome
        (PlainRecord.valueSession value) = .error .overflow := by
  intro value
  have large : value.TooLarge := ⟨_, rfl, by decide +kernel⟩
  exact ⟨_, rfl, ValidatorOf.outcome_verdict_of_overflows rfl rfl rfl ⟨rfl, .inl large⟩⟩

end RecordValidation
