import RecordValidation.Proofs.Answers
import RecordValidation.Proofs.ExactOrder
import RecordValidation.Proofs.FirstComplaint

/-!
# Numbers within their bounds

A check on a number asks two questions: is the number below the lower bound, and is it above the
upper one. For a number that can be ordered, two answers of no say that it is within the bounds,
and as the comparisons are exact they say so whatever kinds of numbers meet
(`NumberSettings.complaintOnQuantity_eq_none_iff`). For one that cannot be ordered they say nothing:
`accepted_number_exact` has what a check accepts, and `unordered_accepted` a number that is accepted
and within no bounds.
-/

namespace RecordValidation

namespace Value

/-- What a number or truth value is in the order of rational numbers and infinities. -/
def extended? (value : Value) : Option Extended := value.quantity?.bind Quantity.extended?

/-- A value can be given as a bound: it is absent, a number or a truth value. -/
def IsBound (value : Value) : Prop := value = .null ∨ value.quantity?.isSome = true

/-- A value is a number, an integer or one of the binary64 format. -/
def IsNumber (value : Value) : Prop := (∃ n, value = .int n) ∨ ∃ number, value = .float number

/-- A value is equal to an integer. -/
def IsWhole (value : Value) : Prop := ∃ k : Int, value.extended? = some (Extended.finite k)

end Value

namespace Quantity

/-- A comparison that tells a relation of what can be ordered gives an answer for every bound, and
it is yes exactly if the quantity and the bound can be ordered and are so related. A bound that is
absent is not violated, and it cannot be ordered either, so the two sides agree about it. -/
theorem violates_of_isBound {fails : Quantity → Quantity → Bool}
    {related : Extended → Extended → Prop}
    (tells : ∀ a b, fails a b = true ↔ ∃ x ∈ a.extended?, ∃ y ∈ b.extended?, related x y)
    {bound : Value} (isBound : bound.IsBound) (quantity : Quantity) :
    ∃ answer, quantity.violates fails bound = .ok answer ∧
      (answer = true ↔ ∃ x ∈ quantity.extended?, ∃ y ∈ bound.extended?, related x y) := by
  rcases isBound with rfl | given
  · exact ⟨false, rfl, by simp [Value.extended?, Value.quantity?]⟩
  · obtain ⟨limit, isLimit⟩ := Option.isSome_iff_exists.1 given
    have same : bound.extended? = limit.extended? := by rw [Value.extended?, isLimit]; rfl
    refine ⟨fails quantity limit, ?_, by rw [tells, same]⟩
    unfold violates
    rw [isLimit]
    cases bound with
    | null => cases isLimit
    | _ => rfl

/-- A quantity is under a bound exactly if both can be ordered and it comes before the bound. -/
theorem isUnder_of_isBound {bound : Value} (isBound : bound.IsBound) (quantity : Quantity) :
    ∃ answer, quantity.isUnder bound = .ok answer ∧
      (answer = true ↔ ∃ x ∈ quantity.extended?, ∃ y ∈ bound.extended?, x < y) :=
  violates_of_isBound isBelow_iff isBound quantity

/-- A quantity is over a bound exactly if both can be ordered and it comes after the bound. -/
theorem isOver_of_isBound {bound : Value} (isBound : bound.IsBound) (quantity : Quantity) :
    ∃ answer, quantity.isOver bound = .ok answer ∧
      (answer = true ↔ ∃ x ∈ quantity.extended?, ∃ y ∈ bound.extended?, y < x) :=
  violates_of_isBound isAbove_iff isBound quantity

end Quantity

namespace NumberSettings

/-- A number or infinity is within the bounds: at least the lower one and at most the upper one,
where these are given and can be ordered. -/
def Spans (settings : NumberSettings) (amount : Extended) : Prop :=
  (∀ least ∈ settings.least.extended?, least ≤ amount) ∧
    ∀ most ∈ settings.most.extended?, amount ≤ most

/-- The bounds of a check are values that can be given as bounds. -/
structure Bounded (settings : NumberSettings) : Prop where
  least : settings.least.IsBound
  most : settings.most.IsBound

/-- There is no complaint about a quantity exactly if it is within the bounds or cannot be ordered.
Two answers of no are two statements about an order only if there is something to order. -/
theorem complaintOnQuantity_eq_none_iff {settings : NumberSettings} (bounded : settings.Bounded)
    (quantity : Quantity) :
    settings.complaintOnQuantity quantity = .ok none ↔
      ∀ amount ∈ quantity.extended?, settings.Spans amount := by
  obtain ⟨low, answersLow, isUnder⟩ := quantity.isUnder_of_isBound bounded.least
  obtain ⟨high, answersHigh, isOver⟩ := quantity.isOver_of_isBound bounded.most
  have silent : settings.complaintOnQuantity quantity = .ok none ↔
      ¬low = true ∧ ¬high = true := by
    simp only [complaintOnQuantity, answersLow, answersHigh]
    cases low <;> cases high <;> simp [bind, Except.bind, pure, Except.pure]
  rw [silent, isUnder, isOver]
  constructor
  · rintro ⟨notUnder, notOver⟩ amount isAmount
    constructor
    · intro least isLeast
      exact not_lt.1 fun less => notUnder ⟨amount, isAmount, least, isLeast, less⟩
    · intro most isMost
      exact not_lt.1 fun greater => notOver ⟨amount, isAmount, most, isMost, greater⟩
  · intro spans
    constructor
    · rintro ⟨amount, isAmount, least, isLeast, less⟩
      exact absurd ((spans amount isAmount).1 least isLeast) (not_le.2 less)
    · rintro ⟨amount, isAmount, most, isMost, greater⟩
      exact absurd ((spans amount isAmount).2 most isMost) (not_le.2 greater)

section

variable {settings : NumberSettings} {message value : Value}

/-- A value that counts as a number is complained about for its quantity alone. -/
theorem complaint?_of_counts {quantity : Quantity}
    (counts : settings.amount? value = .ok (some quantity)) :
    settings.complaint? message value = settings.complaintOnQuantity quantity := by
  rw [complaint?, counts]
  rfl

/-- A value that does not count as a number is complained about. -/
theorem complaint?_of_not_counts (other : settings.amount? value = .ok none) :
    settings.complaint? message value = .ok (some ⟨message.orDefault settings.template, []⟩) := by
  rw [complaint?, other]
  rfl

/-- There is no complaint about a number exactly if it is whole where it has to be, and within the
bounds unless it cannot be ordered. An integer is whole; a number of the format is tested, and one
that fails the test counts as no number. -/
theorem complaint?_eq_none_iff (bounded : settings.Bounded) (isNumber : value.IsNumber) :
    settings.complaint? message value = .ok none ↔
      (settings.integerOnly.truthy = true → value.IsWhole) ∧
        ∀ amount ∈ value.extended?, settings.Spans amount := by
  rcases isNumber with ⟨n, rfl⟩ | ⟨number, rfl⟩
  · have whole : (Value.int n).IsWhole := ⟨n, Quantity.extended?_ofInt n⟩
    have counts : settings.amount? (.int n) = .ok (some (.ofInt n)) := rfl
    rw [complaint?_of_counts counts, complaintOnQuantity_eq_none_iff bounded]
    exact ⟨fun spans => ⟨fun _ => whole, spans⟩, And.right⟩
  · have isWhole : (Value.float number).IsWhole ↔ number.isIntegral = true :=
      number.isIntegral_iff.symm
    rw [isWhole]
    by_cases whole : settings.integerOnly.truthy = true → number.isIntegral = true
    · have counts : settings.amount? (.float number) = .ok (some number.quantity) := by
        rw [amount?, if_neg]
        simpa using whole
      rw [complaint?_of_counts counts, complaintOnQuantity_eq_none_iff bounded]
      exact ⟨fun spans => ⟨whole, spans⟩, And.right⟩
    · have other : settings.amount? (.float number) = .ok none := by
        rw [amount?, if_pos]
        simpa using whole
      rw [complaint?_of_not_counts other]
      constructor
      · nofun
      · exact fun ⟨holds, _⟩ => absurd holds whole

end

end NumberSettings

namespace ValidatorOf

variable {ρ : Type} {host : Host ρ} {name value : Value} {session : Session ρ}

/-- A validator checks numbers by some settings. -/
def ChecksNumber (validator : Validator) (settings : NumberSettings) : Prop :=
  validator.check = .number settings ∨ validator.check = .integer settings

/-- What a validator that checks numbers says about an attribute is its complaint about the value
there, worded. -/
theorem outcome_verdict_of_checksNumber {validator : Validator} {settings : NumberSettings}
    (checks : validator.ChecksNumber settings) (read : host.read session.record name = .ok value) :
    (validator.verdict host name).outcome session =
      settings.complaint? validator.message value >>= fun complaint =>
        (word host name complaint).outcome session := by
  have judges : validator.judgesValue = true := by
    rcases checks with check | check <;> rw [judgesValue, check]
  have complains : validator.valueComplaint? value =
      settings.complaint? validator.message value := by
    rcases checks with check | check <;> simp only [valueComplaint?, check]
  rw [outcome_verdict_of_judgesValue judges read, complains]

/-- A validator that checks numbers says nothing about an attribute exactly if it has no complaint
about the value there. A complaint is always worded as a message, so silence means that there was
none. -/
theorem verdict_eq_nil_iff {validator : Validator} {settings : NumberSettings}
    (checks : validator.ChecksNumber settings) (read : host.read session.record name = .ok value) :
    (validator.verdict host name).outcome session = .ok [] ↔
      settings.complaint? validator.message value = .ok none := by
  rw [outcome_verdict_of_checksNumber checks read]
  cases settings.complaint? validator.message value with
  | error fault => exact ⟨nofun, nofun⟩
  | ok complaint => exact outcome_word_eq_nil_iff.trans (by rw [Except.ok.injEq])

end ValidatorOf

/-- What a check on a number accepts.

Take a validator that checks numbers, with bounds that are absent, numbers or truth values, and an
attribute that has an integer or a binary64 number for its value, infinities and numbers that cannot
be ordered among them. The validator says nothing about the attribute exactly if the number is whole
where only integers are allowed, and at least the lower and at most the upper bound unless it cannot
be ordered. So a number that can be ordered is accepted only within the bounds, whatever kinds of
numbers the value and the bounds are, and one that cannot be ordered is accepted exactly where
fractions are allowed.

Proof: there is a message exactly if there is a complaint. Each of the two comparisons gives an
answer, and it is the answer for the rational numbers and infinities that are compared. -/
theorem accepted_number_exact {ρ : Type} {host : Host ρ} {validator : Validator}
    {settings : NumberSettings} {name value : Value} {session : Session ρ}
    (checks : validator.ChecksNumber settings) (bounded : settings.Bounded)
    (isNumber : value.IsNumber) (read : host.read session.record name = .ok value) :
    (validator.verdict host name).outcome session = .ok [] ↔
      (settings.integerOnly.truthy = true → value.IsWhole) ∧
        ∀ amount ∈ value.extended?, settings.Spans amount :=
  (ValidatorOf.verdict_eq_nil_iff checks read).trans
    (NumberSettings.complaint?_eq_none_iff bounded isNumber)

/-- The integer `2 ^ 53 + 1`, which is no binary64 number, is over a bound of `2 ^ 53` that is one.
-/
theorem accepted_number_exact_mixed :
    let settings : NumberSettings := Arguments.numberSettings
      [("min", .int 0), ("max", .float (.finite false (2 ^ 52) 1))] false
    let record : PlainRecord := { values := ⟨[("v", .int (2 ^ 53 + 1))]⟩, labels := none }
    ∃ validator, construct .number (.list ["v"])
        [("min", .int 0), ("max", .float (.finite false (2 ^ 52) 1))] = .ok validator ∧
      validator.ChecksNumber settings ∧ settings.Bounded ∧
      (validator.verdict record.host "v").outcome { record, errors := .empty, events := [] } ≠
        .ok [] := by
  intro settings record
  refine ⟨_, rfl, .inl rfl, ⟨.inr rfl, .inr rfl⟩, fun accepted => ?_⟩
  obtain ⟨-, within⟩ := (accepted_number_exact (.inl rfl) ⟨.inr rfl, .inr rfl⟩
    (.inl ⟨2 ^ 53 + 1, rfl⟩) rfl).1 accepted
  have atMost := (within _ rfl).2 _ rfl
  rw [Extended.finite_le_finite] at atMost
  norm_num at atMost

/-- The number that cannot be ordered is accepted between zero and ten, although it is neither at
least zero nor at most ten. -/
theorem unordered_accepted :
    let settings : NumberSettings :=
      Arguments.numberSettings [("min", .int 0), ("max", .int 10)] false
    let record : PlainRecord := { values := ⟨[("v", .float .nan)]⟩, labels := none }
    ∃ validator, construct .number (.list ["v"]) [("min", .int 0), ("max", .int 10)] =
        .ok validator ∧ validator.ChecksNumber settings ∧ settings.Bounded ∧
      record.read "v" = .ok (.float .nan) ∧
      (validator.verdict record.host "v").outcome { record, errors := .empty, events := [] } =
        .ok [] ∧
      ¬∃ amount ∈ (Value.float .nan).extended?, settings.Spans amount := by
  intro settings record
  refine ⟨_, rfl, .inl rfl, ⟨.inr rfl, .inr rfl⟩, rfl, rfl, ?_⟩
  rintro ⟨amount, isAmount, -⟩
  cases isAmount

end RecordValidation
