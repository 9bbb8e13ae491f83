import RecordValidation.Proofs.NumberBounds
import RecordValidation.Proofs.NumberTexts

/-!
# Answers of a check on numbers

A check on a number converts a text that looks like one, and stops where that cannot be done. It
stumbles over exactly those texts that look like a number that is allowed and have an information
separator (`NumberSettings.amount?_of_stumbles`, `NumberSettings.exists_amount?`). About everything
else it answers, with no message or one, since all quantities can be compared with the bounds:
`number_check_answers_exact`. `separator_stops_number_check` is a text that it stops at.
-/

namespace RecordValidation

namespace NumberSettings

variable {settings : NumberSettings} {message value : Value}

/-- The texts that a check on a number has for its complaints are texts. -/
structure Worded (settings : NumberSettings) (message : Value) : Prop where
  message : message.IsWording
  tooSmall : ∃ template, settings.tooSmall = .text template
  tooBig : ∃ template, settings.tooBig = .text template

/-- A value is a text that looks like a number that is allowed, and has an information separator. -/
def Stumbles (settings : NumberSettings) (value : Value) : Prop :=
  ∃ s, value = .text s ∧ settings.accepts s = true ∧ ∃ c ∈ s.toList, Numeral.IsSeparator c

/-- A text that looks like a number that is allowed looks like an integer or a number. -/
theorem looks_of_accepts {s : String} (accepted : settings.accepts s = true) :
    Numeral.isIntegerText s.toList = true ∨ Numeral.isNumberText s.toList = true := by
  unfold accepts at accepted
  split at accepted
  · exact .inl accepted
  · exact .inr accepted

/-- A value that a check stumbles over has no quantity. -/
theorem amount?_of_stumbles (stumbles : settings.Stumbles value) :
    settings.amount? value = .error .badValue := by
  obtain ⟨s, rfl, accepted, c, present, separator⟩ := stumbles
  have unread : Numeral.readBinary64? s = none :=
    Option.not_isSome_iff_eq_none.1 (Numeral.not_isSome_readBinary64? present separator)
  rw [amount?, if_pos accepted, quantityOfText, unread]
  rfl

/-- Any other value counts as some quantity or as none. A text that passes the look and has no
separator is converted, and all other values are judged without a conversion. -/
theorem exists_amount? (steady : ¬settings.Stumbles value) :
    ∃ quantity?, settings.amount? value = .ok quantity? := by
  cases value with
  | text s =>
    by_cases accepted : settings.accepts s = true
    · have noSeparator : ∀ c ∈ s.toList, ¬Numeral.IsSeparator c := fun c present separator =>
        steady ⟨s, rfl, accepted, c, present, separator⟩
      obtain ⟨number, isRead⟩ := Option.isSome_iff_exists.1
        ((Numeral.isSome_readBinary64?_iff (looks_of_accepts accepted)).2 noSeparator)
      refine ⟨some number.quantity, ?_⟩
      rw [amount?, if_pos accepted, quantityOfText, isRead]
      rfl
    · exact ⟨none, by rw [amount?, if_neg accepted]⟩
  | _ => exact ⟨_, rfl⟩

/-- A quantity is complained about with a text, or not at all. The lower bound is asked about first,
and the answer about either is there for every quantity. -/
theorem exists_complaintOnQuantity (bounded : settings.Bounded) (worded : settings.Worded message)
    (quantity : Quantity) :
    ∃ complaint, settings.complaintOnQuantity quantity = .ok complaint ∧
      ∀ given ∈ complaint, given.IsWorded := by
  obtain ⟨low, answersLow, -⟩ := quantity.isUnder_of_isBound bounded.least
  obtain ⟨high, answersHigh, -⟩ := quantity.isOver_of_isBound bounded.most
  unfold complaintOnQuantity
  rw [answersLow, answersHigh]
  cases low with
  | true =>
    refine ⟨_, rfl, fun given isGiven => ?_⟩
    cases isGiven
    exact worded.tooSmall
  | false =>
    cases high with
    | true =>
      refine ⟨_, rfl, fun given isGiven => ?_⟩
      cases isGiven
      exact worded.tooBig
    | false => exact ⟨_, rfl, nofun⟩

/-- A value that the check does not stumble over is complained about with a text, or not at all. If
it counts as no number the complaint is the check's own template, or what is given in place of
it. -/
theorem exists_complaint? (bounded : settings.Bounded) (worded : settings.Worded message)
    (steady : ¬settings.Stumbles value) :
    ∃ complaint, settings.complaint? message value = .ok complaint ∧
      ∀ given ∈ complaint, given.IsWorded := by
  obtain ⟨quantity?, isAmount⟩ := exists_amount? steady
  cases quantity? with
  | some quantity =>
    rw [complaint?_of_counts isAmount]
    exact exists_complaintOnQuantity bounded worded quantity
  | none =>
    rw [complaint?_of_not_counts isAmount]
    refine ⟨_, rfl, fun given isGiven => ?_⟩
    cases isGiven
    exact worded.message.orDefault settings.template

end NumberSettings

/-- What a check on a number comes to.

Take a validator that checks numbers, with bounds that are absent, numbers or truth values and with
texts for its complaints, and an attribute that has a label and any value at all. The check stops
with the fault of a bad value if it stumbles over the value, which is a text that looks like a
number that is allowed and has an information separator. It answers with no message or one for every
other value. That is where the two readers of texts differ: a text that looks like an integer or a
number is converted exactly if it has no information separator.

Proof: a value that is not stumbled over counts as some quantity or as none. Then there is a
complaint that has a text or none at all, and that comes to an answer. -/
theorem number_check_answers_exact {ρ : Type} {host : Host ρ} {validator : Validator}
    {settings : NumberSettings} {name value label : Value} {session : Session ρ}
    (checks : validator.ChecksNumber settings) (bounded : settings.Bounded)
    (worded : settings.Worded validator.message)
    (read : host.read session.record name = .ok value)
    (labelled : (host.labelOf name).outcome session = .ok label) :
    (settings.Stumbles value →
      (validator.verdict host name).outcome session = .error .badValue) ∧
    (¬settings.Stumbles value →
      ValidatorOf.IsAnswer ((validator.verdict host name).outcome session)) ∧
    ∀ s : String, Numeral.isIntegerText s.toList = true ∨ Numeral.isNumberText s.toList = true →
      ((Numeral.readBinary64? s).isSome = true ↔ ∀ c ∈ s.toList, ¬Numeral.IsSeparator c) := by
  rw [ValidatorOf.outcome_verdict_of_checksNumber checks read]
  refine ⟨fun stumbles => ?_, fun steady => ?_, fun s => Numeral.isSome_readBinary64?_iff⟩
  · rw [NumberSettings.complaint?, NumberSettings.amount?_of_stumbles stumbles]
    rfl
  · obtain ⟨complaint, complains, isWorded⟩ :=
      NumberSettings.exists_complaint? bounded worded steady
    rw [complains]
    exact ValidatorOf.isAnswer_word labelled isWorded

open PlainRecord in
/-- A check that allows no integer below zero answers about a text with a line separator, a sign and
digits that are not ASCII digits. -/
theorem number_check_answers_exact_arabic :
    ∃ validator, construct .integer (.list ["v"]) [("min", .int 0)] = .ok validator ∧
      ValidatorOf.IsAnswer ((validator.verdict (ofValue "\u2028-٤٢").host "v").outcome
        (valueSession "\u2028-٤٢")) := by
  let settings : NumberSettings := Arguments.numberSettings [("min", .int 0)] true
  have built : ∃ validator, construct .integer (.list ["v"]) [("min", .int 0)] = .ok validator ∧
      validator.ChecksNumber settings ∧ settings.Worded validator.message :=
    ⟨_, rfl, .inr rfl, nofun, ⟨_, rfl⟩, ⟨_, rfl⟩⟩
  have noSeparator : ∀ c ∈ "\u2028-٤٢".toList, ¬Numeral.IsSeparator c := by
    simp [Numeral.IsSeparator]
  have steady : ¬settings.Stumbles "\u2028-٤٢" := by
    rintro ⟨s, same, -, c, present, separator⟩
    rw [← Value.text.inj same] at present
    exact noSeparator c present separator
  have read : (ofValue "\u2028-٤٢").host.read (valueSession "\u2028-٤٢").record "v" =
    .ok "\u2028-٤٢" := rfl
  have labelled : ((ofValue "\u2028-٤٢").host.labelOf "v").outcome (valueSession "\u2028-٤٢") =
    .ok "v" := rfl
  obtain ⟨validator, constructed, checks, worded⟩ := built
  obtain ⟨-, answers, -⟩ :=
    number_check_answers_exact checks ⟨.inr rfl, .inl rfl⟩ worded read labelled
  exact ⟨validator, constructed, answers steady⟩

open PlainRecord in
/-- The digit five after an information separator looks like an integer and like a number, and a
check without any bounds stops there, whether or not fractions are allowed. -/
theorem separator_stops_number_check :
    Numeral.isIntegerText "\u001C5".toList = true ∧
      Numeral.isNumberText "\u001C5".toList = true ∧
      ∀ kind ∈ [CheckKind.number, CheckKind.integer],
        ∃ validator, construct kind (.list ["v"]) [] = .ok validator ∧
          (validator.verdict (ofValue "\u001C5").host "v").outcome (valueSession "\u001C5") =
            .error .badValue := by
  refine ⟨by decide +kernel, by decide +kernel, fun kind listed => ?_⟩
  simp only [List.mem_cons, List.not_mem_nil, or_false] at listed
  rcases listed with rfl | rfl <;> exact ⟨_, rfl, rfl⟩

end RecordValidation
