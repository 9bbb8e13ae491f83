import RecordValidation.Proofs.Comparisons
import RecordValidation.Proofs.Resolution

/-!
# The order that comparisons of texts share

A comparison asks for one of six relations. Six validators that differ in nothing else make up a
`Comparison`, and what each of them says follows from one comparison of the texts of the value and
the target (`Comparison.Asks.accepts_iff`). So the six relations are those of one total order:
`Comparison.Orders` has its laws, with the negation of a relation (`Relation.negated`), its converse
(`Relation.converse`) and absent values in place of empty texts.

`comparison_order_exact` says that every comparison as texts has these laws, and that one as numbers
rejects, by all six relations, what is no number.
-/

namespace RecordValidation

namespace Relation

/-- The relation that holds where a relation does not. -/
def negated : Relation → Relation
  | equal => unequal
  | unequal => equal
  | above => atMost
  | atMost => above
  | below => atLeast
  | atLeast => below

/-- The relation that holds of a target and a value where a relation holds of the value and the
target. -/
def converse : Relation → Relation
  | above => below
  | below => above
  | atLeast => atMost
  | atMost => atLeast
  | relation => relation

/-- The negation holds exactly where the relation does not. -/
@[simp] theorem holds_negated (relation : Relation) (order : Ordering) :
    relation.negated.holds order = !relation.holds order := by
  cases relation <;> cases order <;> rfl

/-- The converse holds of an order if the relation holds of the order from the other side. -/
@[simp] theorem holds_converse (relation : Relation) (order : Ordering) :
    relation.converse.holds order = relation.holds order.swap := by
  cases relation <;> cases order <;> rfl

/-- Of two things with a known order, one is below the other, equal to it or above it. That none of
the other two holds is settled case by case, as there are three orders and six relations. -/
theorem existsUnique_holds (order : Ordering) :
    ∃! relation : Relation, relation ∈ [below, equal, above] ∧ relation.holds order = true := by
  cases order with
  | lt => exact ⟨below, by decide, by rintro (_ | _ | _ | _ | _ | _) <;> decide⟩
  | eq => exact ⟨equal, by decide, by rintro (_ | _ | _ | _ | _ | _) <;> decide⟩
  | gt => exact ⟨above, by decide, by rintro (_ | _ | _ | _ | _ | _) <;> decide⟩

end Relation

/-- A value, or the empty text in place of an absent one. -/
def Value.IsWrittenAs (value written : Value) : Prop :=
  written = value ∨ value = .null ∧ written = .text ""

/-- A value compares like the empty text where it is absent. So what is shown of a comparison holds
of one in which absent values are written as empty texts. -/
theorem Value.IsWrittenAs.comparedText {value written : Value} (same : value.IsWrittenAs written) :
    written.comparedText = value.comparedText := by
  rcases same with rfl | ⟨rfl, rfl⟩
  · rfl
  · rfl

/-- A validator for each relation, all of which compare an attribute of a record with the same
target in the same way. -/
structure Comparison (ρ : Type) where
  host : Host ρ
  session : Session ρ
  name : Value
  other : Value
  constant : Value
  comparedAs : ComparedAs
  validator : Relation → Validator
  compares : ∀ relation, (validator relation).check = .compare other constant relation comparedAs

namespace Comparison

variable {ρ σ τ : Type} {comparison : Comparison ρ} {value target : Value} {relation : Relation}

/-- What the validator for a relation says. -/
def answer (comparison : Comparison ρ) (relation : Relation) : Outcome (List Value) :=
  ((comparison.validator relation).verdict comparison.host comparison.name).outcome
    comparison.session

/-- The validator for a relation says nothing. -/
def Accepts (comparison : Comparison ρ) (relation : Relation) : Prop :=
  comparison.answer relation = .ok []

/-- The validator for a relation has one message. -/
def Rejects (comparison : Comparison ρ) (relation : Relation) : Prop :=
  ValidatorOf.IsMessage (comparison.answer relation)

/-- A value is compared with a target, and there is a wording for what is wrong about it. -/
structure Asks (comparison : Comparison ρ) (value target : Value) : Prop where
  read : comparison.host.read comparison.session.record comparison.name = .ok value
  found : ∃ shown, (Target.find comparison.host comparison.other comparison.constant
    comparison.name).outcome comparison.session = .ok ⟨target, shown⟩
  labelled : ∃ label, (comparison.host.labelOf comparison.name).outcome comparison.session =
    .ok label
  wording : ∀ relation, (comparison.validator relation).message.IsWording

/-- Nothing is both accepted and rejected. -/
theorem Rejects.not_accepts (rejects : comparison.Rejects relation) :
    ¬comparison.Accepts relation := by
  obtain ⟨message, answered⟩ := rejects
  intro accepts
  rw [Accepts, answered] at accepts
  cases accepts

/-- What is found to be related is accepted, and what is found not to be is rejected. The two are
shown together, since each excludes the other. -/
theorem Asks.judged (asks : comparison.Asks value target) {related : Bool}
    (isRelated : relation.relates comparison.comparedAs value target = .ok related) :
    (comparison.Accepts relation ↔ related = true) ∧
      (comparison.Rejects relation ↔ related = false) := by
  obtain ⟨shown, found⟩ := asks.found
  obtain ⟨label, labelled⟩ := asks.labelled
  have compares := comparison.compares relation
  cases related with
  | true =>
    have accepts : comparison.Accepts relation :=
      ValidatorOf.outcome_verdict_of_related compares asks.read found isRelated
    exact ⟨iff_of_true accepts rfl, iff_of_false (fun rejects => rejects.not_accepts accepts) nofun⟩
  | false =>
    have rejects : comparison.Rejects relation :=
      ValidatorOf.isMessage_verdict_of_unrelated compares asks.read found labelled
        (asks.wording relation) isRelated
    exact ⟨iff_of_false rejects.not_accepts nofun, iff_of_true rejects rfl⟩

section

variable (asText : comparison.comparedAs = .string) (asks : comparison.Asks value target)

include asText asks

/-- A relation accepts a value as a text exactly if it holds of the order of the texts. As texts a
relation always is found to hold or not, so nothing has to be assumed of the two values. -/
theorem Asks.accepts_iff (relation : Relation) : comparison.Accepts relation ↔
    relation.holds (compare value.comparedText target.comparedText) = true := by
  refine (asks.judged ?_).1
  rw [asText]
  rfl

/-- A relation rejects a value as a text exactly if its negation accepts it. A relation and its
negation are settled by the same order of two texts. -/
theorem Asks.accepts_negated_iff (relation : Relation) :
    comparison.Accepts relation.negated ↔ comparison.Rejects relation := by
  have isRelated : relation.relates comparison.comparedAs value target =
      .ok (relation.relatesTexts value target) := by
    rw [asText]
    rfl
  rw [asks.accepts_iff asText, Relation.holds_negated, (asks.judged isRelated).2,
    Relation.relatesTexts, Bool.not_eq_true']

end

/-- The laws of one total order on texts, for a comparison of a value with a target and for other
comparisons of the two, of one of them or of what is written like them. -/
structure Orders (comparison : Comparison ρ) (value target : Value) : Prop where
  texts : ∀ relation : Relation, comparison.Accepts relation ↔
    relation.holds (compare value.comparedText target.comparedText) = true
  /-- A value is below its target, equal to it or above it, and only one of these. -/
  one : ∃! relation : Relation, relation ∈ [.below, .equal, .above] ∧ comparison.Accepts relation
  negated : ∀ relation : Relation,
    comparison.Accepts relation.negated ↔ comparison.Rejects relation
  converse : ∀ {σ : Type} {swapped : Comparison σ}, swapped.comparedAs = .string →
    swapped.Asks target value → ∀ relation : Relation,
      swapped.Accepts relation.converse ↔ comparison.Accepts relation
  trans : ∀ {σ τ : Type} {next : Comparison σ} {both : Comparison τ} {last : Value},
    next.comparedAs = .string → both.comparedAs = .string → next.Asks target last →
      both.Asks value last → comparison.Accepts .below → next.Accepts .below →
        both.Accepts .below
  absent : ∀ {σ : Type} {written : Comparison σ} {a b : Value}, written.comparedAs = .string →
    written.Asks a b → value.IsWrittenAs a → target.IsWrittenAs b → ∀ relation : Relation,
      written.Accepts relation ↔ comparison.Accepts relation

/-- A comparison as texts has the laws of the order on texts. Each law is one of comparing texts,
carried over by `Comparison.Asks.accepts_iff`. -/
theorem Asks.orders (asks : comparison.Asks value target)
    (asText : comparison.comparedAs = .string) : comparison.Orders value target where
  texts := asks.accepts_iff asText
  one := by
    simp only [asks.accepts_iff asText]
    exact Relation.existsUnique_holds _
  negated := asks.accepts_negated_iff asText
  converse := by
    intro _ swapped swappedAsText swappedAsks relation
    rw [swappedAsks.accepts_iff swappedAsText, asks.accepts_iff asText, Relation.holds_converse,
      ← Std.OrientedCmp.eq_swap]
  trans := by
    intro _ _ next both last nextAsText bothAsText nextAsks bothAsks first second
    rw [asks.accepts_iff asText] at first
    rw [nextAsks.accepts_iff nextAsText] at second
    rw [bothAsks.accepts_iff bothAsText]
    simp only [Relation.holds, beq_iff_eq] at first second ⊢
    exact Std.TransCmp.lt_trans first second
  absent := by
    intro _ written a b writtenAsText writtenAsks sameValue sameTarget relation
    rw [writtenAsks.accepts_iff writtenAsText, asks.accepts_iff asText, sameValue.comparedText,
      sameTarget.comparedText]

/-- What is no number is rejected by all relations, if it is compared as one and no integer is too
large. The premises on size keep the comparison from stopping; a comparison that stops does not
reject. -/
theorem Asks.rejects_of_not_numeric (asks : comparison.Asks value target)
    (asNumber : comparison.comparedAs = .number) (valueInRange : ¬value.TooLarge)
    (targetInRange : ¬target.TooLarge) (other : ¬(value.IsNumeric ∧ target.IsNumeric))
    (relation : Relation) : comparison.Rejects relation := by
  have steady : ¬ComparedAs.number.Overflows value target := by
    rintro ⟨-, large | ⟨-, large⟩⟩
    · exact valueInRange large
    · exact targetInRange large
  have unrelated := relation.relates_of_not_numeric steady other
  rw [← asNumber] at unrelated
  exact (asks.judged unrelated).2.2 rfl

/-- The comparisons of a value of a plain record with the value that repeats it. -/
def ofValues (value target : Value) (comparedAs : ComparedAs) : Comparison PlainRecord where
  host := PlainRecord.host ⟨⟨[("v", value), ("v_repeat", target)]⟩, none⟩
  session := ⟨⟨⟨[("v", value), ("v_repeat", target)]⟩, none⟩, .empty, []⟩
  name := "v"
  other := .null
  constant := .null
  comparedAs := comparedAs
  validator relation := { Validator.marking ["v"] [] [] with
    check := .compare .null .null relation comparedAs }
  compares _ := rfl

/-- Any value can be compared with any other. The target is found under the name that a comparison
takes if it is given none, and no validator brings a wording of its own. -/
theorem asks_ofValues (value target : Value) (comparedAs : ComparedAs) :
    (ofValues value target comparedAs).Asks value target where
  read := rfl
  found := ⟨_, rfl⟩
  labelled := ⟨_, rfl⟩
  wording _ := nofun

end Comparison

/-- How comparisons that differ only in their relation go together.

Take a value and a target of any kinds, and for each of the six relations a validator that compares
them, with a text for its message if it has one of its own. As texts they are compared by one total
order: a relation accepts the value exactly if it holds of the order of the two texts. The value is
below the target, equal to it or above it, and only one of these; a relation rejects exactly what
its negation accepts, and accepts the value with the target exactly if its converse accepts the
target with the value; being below is transitive; and an absent value is compared like the empty
text. As numbers all six relations reject the value if it or the target is no number by its kind or
its spelling, and neither is an integer that is too large.

Proof: what each validator says follows from the order of the two texts, and texts are ordered
totally. A value that is no number stands in no relation. -/
theorem comparison_order_exact {ρ : Type} {comparison : Comparison ρ} {value target : Value}
    (asks : comparison.Asks value target) :
    (comparison.comparedAs = .string → comparison.Orders value target) ∧
    (comparison.comparedAs = .number → ¬value.TooLarge → ¬target.TooLarge →
      ¬(value.IsNumeric ∧ target.IsNumeric) → ∀ relation, comparison.Rejects relation) :=
  ⟨asks.orders, asks.rejects_of_not_numeric⟩

open Comparison in
/-- As texts ten comes before nine, and nine after ten. As a number no relation accepts the word. -/
theorem comparison_order_exact_ten :
    (ofValues (.int 10) (.int 9) .string).Accepts .below ∧
      (ofValues (.int 9) (.int 10) .string).Accepts .above ∧
      ∀ relation, (ofValues "ten" (.int 9) .number).Rejects relation := by
  have order := (comparison_order_exact (asks_ofValues (.int 10) (.int 9) .string)).1 rfl
  have below : (ofValues (.int 10) (.int 9) .string).Accepts .below :=
    (order.texts .below).2 (by decide +kernel)
  have above : (ofValues (.int 9) (.int 10) .string).Accepts .above :=
    (order.converse rfl (asks_ofValues (.int 9) (.int 10) .string) .below).2 below
  have noNumber : ¬(Value.text "ten").IsNumeric := by
    rintro ⟨number, isNumber⟩
    have unread : (Numeral.readBinary64? "ten").isSome = false := by decide +kernel
    have read : Numeral.readBinary64? "ten" = some number := Except.ok.inj isNumber
    rw [read] at unread
    cases unread
  have small : ¬(Value.int 9).TooLarge := by
    rintro ⟨n, same, large⟩
    cases same
    revert large
    decide +kernel
  have rejected := (comparison_order_exact (asks_ofValues "ten" (.int 9) .number)).2 rfl
    (fun large => nomatch large) small fun numeric => noNumber numeric.1
  exact ⟨below, above, rejected⟩

end RecordValidation
