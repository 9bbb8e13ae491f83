import RecordValidation.Proofs.PlainRecords

/-!
# Which values a pass looks at

A validator without a guard that only looks at values looks at the attributes it covers and, if it
compares them, at what it compares them with (`ValidatorOf.asksWithin_of_looksOnly`).
`Pass.Relevant` collects what a pass may look at.

`pass_sees_relevant_values` says that nothing else counts: on two plain records with the same values
for all of that, a pass gives the same and leaves the same errors. `PlainRecord.glimpse` is what is
shown of a session if only some attributes are looked at, and each piece of work is shown to see no
more than that.
-/

namespace RecordValidation

/-! ## What validators look at -/

namespace ValidatorOf

/-- Whether a validator has no guard and does nothing but look at values. -/
def looksOnly (validator : Validator) : Bool :=
  validator.guard.isNull &&
    match validator.check with
    | .default _ | .filter .. | .inline .. => false
    | _ => true

section

variable {validator : Validator} (looks : validator.looksOnly = true)

include looks

/-- A validator that only looks asks for the value of an attribute and of what it compares it with.
It has no guard that could ask for another, and no default that would be filled in from one. -/
theorem asksWithin_of_looksOnly {relevant : Value → Prop} {name : Value} (own : relevant name)
    (target : ∀ other ∈ validator.target? name, relevant other) :
    validator.AsksWithin relevant name := by
  obtain ⟨unguarded, check⟩ := Bool.and_eq_true_iff.1 looks
  constructor
  case own => exact own
  case target => exact target
  case guard =>
    intro other asked
    cases guard : validator.guard with
    | null =>
      rw [guard] at asked
      cases asked
    | _ =>
      rw [guard] at unguarded
      cases unguarded
  case default =>
    intro other asked
    unfold filledFrom? at asked
    split at asked
    · rename_i kind
      rw [kind] at check
      cases check
    · cases asked

/-- A validator that only looks writes nothing. -/
theorem transforms_of_looksOnly : validator.transforms = false := by
  obtain ⟨-, check⟩ := Bool.and_eq_true_iff.1 looks
  unfold transforms
  cases kind : validator.check with
  | default | filter =>
    rw [kind] at check
    cases check
  | _ => rfl

/-- A validator that only looks calls no function for complaints. -/
theorem ne_inline_of_looksOnly (method params bound : Value) :
    validator.check ≠ .inline method params bound := by
  obtain ⟨-, check⟩ := Bool.and_eq_true_iff.1 looks
  intro kind
  rw [kind] at check
  cases check

end

end ValidatorOf

/-- A pass whose scenarios and validators are worked out before may look at the names it checks, and
at what the validators active in its scenario compare those with. -/
def Pass.Relevant {ρ : Type} (pass : Pass ρ) (scenarios : Outcome ScenarioMap)
    (validators : List Validator) (name : Value) : Prop :=
  ∃ known checked, scenarios = .ok known ∧ pass.checkedNames known = .ok checked ∧
    (name ∈ checked ∨ ∃ validator ∈ validators, validator.appliesTo pass.scenario = true ∧
      ∃ own ∈ validator.attributeNames, .text own ∈ checked ∧
        validator.target? (.text own) = some name)

/-! ## Seeing only some attributes -/

namespace Act

variable {ρ α γ : Type} {view : Session ρ → γ}

/-- Looking at something of the record sees no more than what is looked at. It is shown the record
of its own session, and that it is the same part in the other is the premise. -/
theorem seesOnly_look {part : ρ → Outcome α}
    (shown : ∀ session other, view session = view other →
      part session.record = part other.record) :
    SeesOnly view (do ofOutcome (part (← record))) := by
  intro session other same
  have looks : ∀ session : Session ρ, (do ofOutcome (part (← record)) : Act ρ α).run session =
      (ofOutcome (part session.record) : Act ρ α).run session := fun _ => rfl
  unfold outcome final
  rw [looks, looks, shown session other same]
  exact seesOnly_ofOutcome (part other.record) session other same

end Act

namespace PlainRecord

/-- What is shown of a session if only some attributes are looked at: the errors, the labels, and
the values of those attributes. -/
def glimpse (relevant : Value → Prop) (session : Session PlainRecord) :
    ErrorBag × Option (Value.Table Value) × ({name : Value // relevant name} → Outcome Value) :=
  (session.errors, session.record.labels, fun name => session.record.read name)

/-- Two sessions look alike if they have the same errors, the same labels, and the same values of
the attributes that are looked at. The values are shown as one function, so that two glimpses are
equal is a statement about each of its values. -/
theorem glimpse_eq_iff {relevant : Value → Prop} {session other : Session PlainRecord} :
    glimpse relevant session = glimpse relevant other ↔
      session.errors = other.errors ∧ session.record.labels = other.record.labels ∧
        ∀ name, relevant name → session.record.read name = other.record.read name := by
  simp [glimpse, funext_iff]

/-- What a plain record offers depends on its labels alone. The values are what is asked of the
record, and the labels decide which questions it takes at all. -/
theorem host_congr {record other : PlainRecord} (same : record.labels = other.labels) :
    record.host = other.host := by
  unfold host typeName
  rw [same]

variable {plain : PlainRecord} {relevant : Value → Prop} {name : Value}

/-- Reading a relevant attribute sees no more than the relevant ones. -/
theorem seesOnly_get (isRelevant : relevant name) :
    Act.SeesOnly (glimpse relevant) (plain.host.get name) :=
  Act.seesOnly_look fun _ _ same => (glimpse_eq_iff.1 same).2.2 name isRelevant

/-- Labels do not depend on values. A record without labels answers with the name itself. -/
theorem seesOnly_labelOf (name : Value) :
    Act.SeesOnly (glimpse relevant) (plain.host.labelOf name) := by
  have closed := Act.compositional_seesOnly (glimpse relevant)
  unfold Host.labelOf
  split
  · rename_i label labelled
    obtain rfl : PlainRecord.label = label := by
      unfold host at labelled
      split at labelled
      · exact Option.some.inj labelled
      · cases labelled
    refine Act.seesOnly_look fun session other same => ?_
    rw [label, label, (glimpse_eq_iff.1 same).2.1]
  · exact closed.pure name

/-- What a plain record is asked for at relevant attributes sees no more than those. A plain record
is no sequence and does not know its errors, so there is nothing further to be asked for. -/
theorem seesOnlyOffersAt :
    plain.host.OffersAt relevant fun _ work => Act.SeesOnly (glimpse relevant) work where
  toCompositional := Act.compositional_seesOnly (glimpse relevant)
  get _ isRelevant := seesOnly_get isRelevant
  labelOf := seesOnly_labelOf
  sequence := Act.seesOnly_ofOutcome (.error .unsupported)
  errors knows := by cases knows

/-- A turn of a validator that only looks depends on the errors, on the value of its attribute and
on that of the attribute this is compared with. A turn does three things. It looks at the errors,
which are part of the glimpse; it asks, which a validator that only looks does within what is
relevant; and it adds messages, which changes the errors of both sessions in the same way. -/
theorem seesOnly_take {turn : Turn} (looksOnly : turn.validator.looksOnly = true)
    (isRelevant : relevant (.text turn.name))
    (targetRelevant : ∀ target,
      turn.validator.target? (.text turn.name) = some target → relevant target) :
    Act.SeesOnly (glimpse relevant) (turn.take plain.host) := by
  have closed := Act.compositional_seesOnly (glimpse relevant)
  have errors : Act.SeesOnly (glimpse relevant) (Act.errors : Act PlainRecord ErrorBag) :=
    Act.seesOnly_get fun _ _ same => (glimpse_eq_iff.1 same).1
  have adds : ∀ message, Act.SeesOnly (glimpse relevant)
      (Act.addError (.text turn.name) message : Act PlainRecord Unit) := by
    intro message
    refine closed.bind (Act.seesOnly_ofOutcome _) fun own => Act.seesOnly_modify ?_
    intro session other same
    obtain ⟨sameErrors, sameLabels, sameValues⟩ := glimpse_eq_iff.1 same
    exact glimpse_eq_iff.2 ⟨congrArg (·.add own message) sameErrors, sameLabels, sameValues⟩
  have asks : Act.SeesOnly (glimpse relevant) (turn.ask plain.host) := by
    have within := ValidatorOf.asksWithin_of_looksOnly looksOnly isRelevant targetRelevant
    refine Turn.holds_ask_of_asksWithin seesOnlyOffersAt within ?_ ?_
    · intro transforms
      rw [ValidatorOf.transforms_of_looksOnly looksOnly] at transforms
      cases transforms
    · intro method params bound kind
      exact absurd kind (ValidatorOf.ne_inline_of_looksOnly looksOnly method params bound)
  exact Turn.holds_take closed errors asks adds

end PlainRecord

/-- A pass sees no values but the relevant ones.

Take two sessions on plain records with the same labels and the same errors, and a pass that nobody
observes and whose validators active in the scenario have no guard and only look at values. Let the
two records have the same values for each attribute that is relevant to the pass: the names that it
checks, which are the active ones of the scenario if none are given, and what a validator active in
the scenario compares one of these with. Then the pass gives the same in both sessions, or stops
with the same fault, and leaves the same errors with the same messages.

Proof: it is settled without looking at the record which turns there are. Each of them sees no more
than the errors, the labels, its own attribute and the one this is compared with, and both
attributes are relevant; so the turns go the same way in both sessions. -/
theorem pass_sees_relevant_values (scenarios : Outcome ScenarioMap) (validators : List Validator)
    (scenario names : Value) (clears : Bool) (session other : Session PlainRecord)
    (sameLabels : session.record.labels = other.record.labels)
    (sameErrors : session.errors = other.errors)
    (looksOnly : ∀ validator ∈ validators, validator.appliesTo scenario = true →
      validator.looksOnly = true)
    (sameValues : ∀ name, (Pass.unobserved (ρ := PlainRecord) scenarios validators scenario names
        clears).Relevant scenarios validators name →
      session.record.read name = other.record.read name) :
    let pass : Pass PlainRecord := .unobserved scenarios validators scenario names clears
    (pass.run session.record.host).outcome session = (pass.run other.record.host).outcome other ∧
      ((pass.run session.record.host).final session).errors =
        ((pass.run other.record.host).final other).errors := by
  intro pass
  rw [← PlainRecord.host_congr sameLabels]
  have startErrors : (Pass.start clears session).errors = (Pass.start clears other).errors := by
    rw [Pass.start, Pass.start, sameErrors]
  cases planned : pass.turnsIn scenarios validators with
  | error fault =>
    have stopped := Pass.run_unobserved_of_error session.record.host session planned
    have otherStopped := Pass.run_unobserved_of_error session.record.host other planned
    obtain ⟨outcome, final⟩ := Act.run_eq_error_iff.1 stopped
    obtain ⟨otherOutcome, otherFinal⟩ := Act.run_eq_error_iff.1 otherStopped
    rw [outcome, final, otherOutcome, otherFinal]
    exact ⟨rfl, startErrors⟩
  | ok found =>
    have closed := Act.compositional_seesOnly
      (PlainRecord.glimpse (pass.Relevant scenarios validators))
    have takes : Act.SeesOnly (PlainRecord.glimpse (pass.Relevant scenarios validators))
        (Turn.takeAll session.record.host found) := by
      refine closed.forM found fun turn taken => ?_
      obtain ⟨present, active, own, known, checked, isKnown, isChecked, asked⟩ :=
        Pass.of_mem_turnsIn planned taken
      have listed : Value.text turn.name ∈ checked := by
        obtain ⟨name, isListed, same⟩ := List.contains_iff_exists_mem_beq.1 asked
        rwa [(Value.text_beq_iff turn.name name).1 same] at isListed
      refine closed.bind (PlainRecord.seesOnly_take (looksOnly _ present active) ?_ ?_) fun _ =>
        closed.pure ()
      · exact ⟨known, checked, isKnown, isChecked, .inl listed⟩
      · exact fun target compared => ⟨known, checked, isKnown, isChecked,
          .inr ⟨turn.validator, present, active, turn.name, own, listed, compared⟩⟩
    obtain ⟨sameOutcome, sameGlimpse⟩ := takes (Pass.start clears session)
      (Pass.start clears other) (PlainRecord.glimpse_eq_iff.2 ⟨startErrors, sameLabels, sameValues⟩)
    obtain ⟨-, errors, outcome⟩ :=
      Pass.final_unobserved_of_ok session.record.host session planned
    obtain ⟨-, otherErrors, otherOutcome⟩ :=
      Pass.final_unobserved_of_ok session.record.host other planned
    have leftErrors := (PlainRecord.glimpse_eq_iff.1 sameGlimpse).1
    rw [errors, outcome, otherErrors, otherOutcome, sameOutcome, leftErrors]
    exact ⟨rfl, rfl⟩

/-- The password is to be repeated, and a mail is required in `review`. -/
def passwordValidators : List Validator := [
  { Validator.marking [.text "password"] [] [] with
    check := .compare .null .null .equal .string },
  { Validator.marking [.text "mail"] [.text "review"] [] with
    skipOnEmpty := .bool false, check := .required .null (.bool false) }]

/-- Somebody who repeated the password wrongly, with a nickname. -/
def passwordSession (nickname : Value) : Session PlainRecord where
  record := {
    values := ⟨[(.text "password", .text "hunter2"), (.text "nick", nickname),
      (.text "password_repeat", .text "hunter")]⟩
    labels := none }
  errors := .empty
  events := []

/-- With a nickname and without one, the pass gives the same and complains about the password in the
same words, which quote the attribute it is compared with. The nickname is not checked, and the mail
is not required in the default scenario. -/
theorem pass_sees_relevant_values_password :
    let pass : Pass PlainRecord := .unobserved (resolve (.text "default") passwordValidators)
      passwordValidators (.text "default") .null true
    let session := passwordSession (.text "bunny")
    let other := passwordSession .null
    (pass.run session.record.host).outcome session = (pass.run other.record.host).outcome other ∧
      ((pass.run session.record.host).final session).errors =
        ((pass.run other.record.host).final other).errors ∧
      ((pass.run other.record.host).final other).errors.all.map
        (fun entry => (entry.1.toText, entry.2.map Value.toText)) =
        [("password", ["password must be equal to \"password_repeat\"."])] := by
  intro pass session other
  have isResolved : resolve (.text "default") passwordValidators =
      .ok (Resolution.scenarioMap (.text "default") passwordValidators) :=
    resolve_of_nameable (Value.isName_text "default") (by decide)
  have sameValues : ∀ name, pass.Relevant (resolve (.text "default") passwordValidators)
      passwordValidators name → session.record.read name = other.record.read name := by
    rintro name ⟨known, checked, isKnown, isChecked, compared⟩
    cases isResolved.symm.trans isKnown
    obtain rfl : [Value.text "password"] = checked := Except.ok.inj isChecked
    obtain isListed | ⟨validator, present, active, own, -, isListed, compared⟩ := compared
    · obtain rfl := List.mem_singleton.1 isListed
      rfl
    · obtain rfl := Value.text.inj (List.mem_singleton.1 isListed)
      have targets : ∀ validator ∈ passwordValidators, ∀ target,
          validator.target? (.text "password") = some target →
            target = .text "password_repeat" := by
        simp only [passwordValidators, List.forall_mem_cons]
        refine ⟨fun target compared => ?_, fun target compared => ?_, by simp⟩
        · exact (Option.some.inj compared).symm
        · cases compared
      rw [targets validator present name compared]
      rfl
  obtain ⟨sameOutcome, sameErrors⟩ := pass_sees_relevant_values
    (resolve (.text "default") passwordValidators) passwordValidators (.text "default") .null true
    session other rfl rfl (by decide) sameValues
  exact ⟨sameOutcome, sameErrors, by decide +kernel⟩

end RecordValidation
