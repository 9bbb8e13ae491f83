import RecordValidation.Proofs.Locality

/-!
# What a pass writes to a record

A pass writes an attribute of a plain record only where a validator that is active in its scenario
transforms attributes: `Pass.writes_only_transformed` says so of every run, whether it ends well or
stops. Each turn leaves the value of an attribute unless it is a turn of such a validator at it.

Where nothing is transformed the record stays as it was, and so does what its turns answer; a second
run that clears the errors then ends as the first one did.
-/

namespace RecordValidation

namespace PlainRecord

/-- Writing an attribute leaves the values of the others. A name that cannot be one is refused by
both readings. -/
theorem read_write_of_unlike {record written : PlainRecord} {name value other : Value}
    (done : record.write name value = .ok written) (unlike : (other == name) = false) :
    written.read other = record.read other := by
  cases part : other.unhashablePart? with
  | none =>
    rw [read_write other done part, unlike]
    rfl
  | some typeName =>
    simp only [read, Value.asName, part]
    rfl

/-- Writing an attribute of the record as it is leaves the values of the others. -/
theorem keepsRead_set (plain : PlainRecord) {name other : Value} (value : Value)
    (unlike : (other == name) = false) :
    Act.Keeps (fun session => session.record.read other) (plain.host.set name value) := by
  intro session
  unfold Act.final
  rw [Host.run_set]
  cases written : plain.host.write session.record name value with
  | error fault => rfl
  | ok changed => exact read_write_of_unlike written unlike

end PlainRecord

namespace Turn

/-- A turn leaves the value of an attribute unless it transforms that attribute. What it asks may
write this one attribute only if its validator transforms, and then at its own name; the messages go
to the errors. -/
theorem keepsRead_take (plain : PlainRecord) {turn : Turn} {name : Value}
    (calls : turn.validator.CallsKeep plain.host Session.record)
    (elsewhere : turn.validator.transforms = true → name ≠ .text turn.name) :
    Act.Keeps (fun session => session.record.read name) (turn.take plain.host) := by
  have closed := Act.compositional_keeps (ρ := PlainRecord) fun session => session.record.read name
  refine keeps_take (holds_ask (plain.host.keepsOffers _) turn ?_ ?_) ?_
  · intro transforms value
    refine plain.keepsRead_set value (Bool.eq_false_iff.2 fun same => ?_)
    exact elsewhere transforms ((Value.text_beq_iff turn.name name).1 (BEq.symm same))
  · intro method params bound isInline session
    exact congrArg (·.read name) (calls method params bound isInline _ session)
  · intro message
    exact closed.bind (Act.keeps_ofOutcome _) fun _ => Act.keeps_modify fun _ => rfl

/-- If turns change the value of an attribute, one of them transforms the attribute. Otherwise each
turn would keep the value, and so would all of them in a row. -/
theorem exists_transform_of_changed (plain : PlainRecord) {turns : List Turn} {name : Value}
    {session : Session PlainRecord}
    (calls : ∀ turn ∈ turns, turn.validator.CallsKeep plain.host Session.record)
    (changed : ((takeAll plain.host turns).final session).record.read name ≠
      session.record.read name) :
    ∃ turn ∈ turns, turn.validator.transforms = true ∧ name = .text turn.name := by
  have closed := Act.compositional_keeps (ρ := PlainRecord) fun session => session.record.read name
  refine Classical.byContradiction fun none => changed ?_
  have keeps : Act.Keeps (fun session => session.record.read name)
      (takeAll plain.host turns) := by
    refine closed.forM turns fun turn taken => ?_
    refine closed.bind (keepsRead_take plain (calls turn taken) ?_) fun _ => closed.pure ()
    intro transforms same
    exact none ⟨turn, taken, transforms, same⟩
  exact keeps session

/-- Turns of validators that only check a plain record go the same way from sessions that have the
same record and the same errors. -/
theorem takeAll_alike (plain : PlainRecord) {turns : List Turn}
    (checks : ∀ turn ∈ turns, turn.validator.ChecksOnly plain.host)
    (session other : Session PlainRecord) (sameRecord : session.record = other.record)
    (sameErrors : session.errors = other.errors) :
    (takeAll plain.host turns).outcome session = (takeAll plain.host turns).outcome other ∧
      ((takeAll plain.host turns).final session).errors =
        ((takeAll plain.host turns).final other).errors := by
  obtain ⟨outcome, errors, -⟩ := takeAll_eq_tally plain checks session
  obtain ⟨otherOutcome, otherErrors, -⟩ := takeAll_eq_tally plain checks other
  rw [outcome, errors, otherOutcome, otherErrors, sameRecord, sameErrors]
  exact ⟨rfl, rfl⟩

end Turn

namespace Pass

section

variable (plain : PlainRecord) {scenarios : Outcome ScenarioMap} {validators : List Validator}
  {scenario names : Value}

/-- An attribute whose value a pass changes is covered by a transform.

Proof: a pass that has no turns changes nothing. Otherwise one of its turns transforms the
attribute. -/
theorem covered_of_changed {clears : Bool} {session : Session PlainRecord} {name : Value}
    (calls : ∀ validator ∈ validators, validator.appliesTo scenario = true →
      validator.CallsKeep plain.host Session.record)
    (changed : (((unobserved scenarios validators scenario names clears).run plain.host).final
      session).record.read name ≠ session.record.read name) :
    ∃ known checked, scenarios = .ok known ∧
      (unobserved (ρ := PlainRecord) scenarios validators scenario names clears).checkedNames
        known = .ok checked ∧
      checked.contains name = true ∧
      ∃ validator ∈ validators, validator.appliesTo scenario = true ∧
        validator.transforms = true ∧ ∃ own ∈ validator.attributeNames, name = .text own := by
  cases planned : (unobserved (ρ := PlainRecord) scenarios validators scenario names
      clears).turnsIn scenarios validators with
  | error fault =>
    have stopped := run_unobserved_of_error plain.host session planned
    rw [(Act.run_eq_error_iff.1 stopped).2] at changed
    exact absurd rfl changed
  | ok found =>
    have kept : ∀ turn ∈ found, turn.validator.CallsKeep plain.host Session.record := by
      intro turn taken
      obtain ⟨present, active, -⟩ := of_mem_turnsIn planned taken
      exact calls _ present active
    rw [(final_unobserved_of_ok plain.host session planned).1] at changed
    obtain ⟨turn, taken, transforms, rfl⟩ := Turn.exists_transform_of_changed plain kept changed
    obtain ⟨present, active, own, known, checked, isKnown, isChecked, asked⟩ :=
      of_mem_turnsIn planned taken
    exact ⟨known, checked, isKnown, isChecked, asked, turn.validator, present, active, transforms,
      turn.name, own, rfl⟩

variable (checksOnly : ∀ validator ∈ validators, validator.appliesTo scenario = true →
  validator.ChecksOnly plain.host)

include checksOnly

/-- Where active validators only check, so do those that take turns. -/
theorem checksOnly_of_mem_turnsIn {clears : Bool} {found : List Turn}
    (planned : (unobserved (ρ := PlainRecord) scenarios validators scenario names clears).turnsIn
      scenarios validators = .ok found) :
    ∀ turn ∈ found, turn.validator.ChecksOnly plain.host := by
  intro turn taken
  obtain ⟨present, active, -⟩ := of_mem_turnsIn planned taken
  exact checksOnly _ present active

/-- A pass in which validators only check leaves the record. If it has no turns it stops before it
could write; if it has, they come to a tally. -/
theorem record_of_checksOnly (clears : Bool) (session : Session PlainRecord) :
    (((unobserved scenarios validators scenario names clears).run plain.host).final
      session).record = session.record := by
  cases planned : (unobserved (ρ := PlainRecord) scenarios validators scenario names
      clears).turnsIn scenarios validators with
  | error fault =>
    have stopped := run_unobserved_of_error plain.host session planned
    rw [(Act.run_eq_error_iff.1 stopped).2]
    rfl
  | ok found =>
    have checks := checksOnly_of_mem_turnsIn plain checksOnly planned
    rw [(final_unobserved_of_ok plain.host session planned).1]
    exact (Turn.takeAll_eq_tally plain checks _).2.2

/-- A pass that clears the errors and in which validators only check depends on nothing but the
record. Whether it has turns does not depend on the session, and the turns start without errors from
either. -/
theorem run_alike (session other : Session PlainRecord)
    (sameRecord : session.record = other.record) :
    ((unobserved scenarios validators scenario names true).run plain.host).outcome session =
        ((unobserved scenarios validators scenario names true).run plain.host).outcome other ∧
      (((unobserved scenarios validators scenario names true).run plain.host).final
          session).errors =
        (((unobserved scenarios validators scenario names true).run plain.host).final
          other).errors := by
  cases planned : (unobserved (ρ := PlainRecord) scenarios validators scenario names
      true).turnsIn scenarios validators with
  | error fault =>
    have stopped := run_unobserved_of_error plain.host session planned
    have otherStopped := run_unobserved_of_error plain.host other planned
    obtain ⟨outcome, final⟩ := Act.run_eq_error_iff.1 stopped
    obtain ⟨otherOutcome, otherFinal⟩ := Act.run_eq_error_iff.1 otherStopped
    rw [outcome, final, otherOutcome, otherFinal]
    exact ⟨rfl, rfl⟩
  | ok found =>
    have checks := checksOnly_of_mem_turnsIn plain checksOnly planned
    obtain ⟨-, errors, outcome⟩ := final_unobserved_of_ok plain.host session planned
    obtain ⟨-, otherErrors, otherOutcome⟩ := final_unobserved_of_ok plain.host other planned
    obtain ⟨sameOutcome, sameErrors⟩ := Turn.takeAll_alike plain checks (start true session)
      (start true other) sameRecord rfl
    rw [errors, outcome, otherErrors, otherOutcome, sameOutcome, sameErrors]
    exact ⟨rfl, rfl⟩

end

/-- A pass writes only what transforms cover.

Take a pass over a plain record that nobody observes and in which no function that is called for
complaints writes to the record. If an attribute has another value after the pass, whether it ended
well or stopped, then the attribute is one of the names that the pass checks, and a validator that
is active in the scenario and transforms attributes has it among its own. If no active validator
transforms attributes, the record is as it was; and then the same pass over again, if it clears the
errors, gives the same answer or stops with the same fault, and leaves the same errors.

Proof: a turn leaves the value of an attribute unless it transforms that attribute, so a value that
changes points to a turn. Without transforms, the pass comes to the tally of its turns, which
depends on nothing but the record and the errors it starts with. -/
theorem writes_only_transformed (plain : PlainRecord) (scenarios : Outcome ScenarioMap)
    (validators : List Validator) (scenario names : Value) (clears : Bool)
    (session : Session PlainRecord)
    (calls : ∀ validator ∈ validators, validator.appliesTo scenario = true →
      validator.CallsKeep plain.host Session.record) :
    let pass : Pass PlainRecord := unobserved scenarios validators scenario names clears
    let after := (pass.run plain.host).final session
    (∀ name, after.record.read name ≠ session.record.read name →
      ∃ known checked, scenarios = .ok known ∧ pass.checkedNames known = .ok checked ∧
        checked.contains name = true ∧
        ∃ validator ∈ validators, validator.appliesTo scenario = true ∧
          validator.transforms = true ∧ ∃ own ∈ validator.attributeNames, name = .text own) ∧
    ((∀ validator ∈ validators, validator.appliesTo scenario = true →
        validator.transforms = false) →
      after.record = session.record ∧
        (clears = true →
          (pass.run plain.host).outcome after = (pass.run plain.host).outcome session ∧
            ((pass.run plain.host).final after).errors = after.errors)) := by
  intro pass after
  refine ⟨fun name changed => covered_of_changed plain calls changed, fun untransformed => ?_⟩
  have checksOnly : ∀ validator ∈ validators, validator.appliesTo scenario = true →
      validator.ChecksOnly plain.host := fun validator present active =>
    ⟨untransformed validator present active, calls validator present active⟩
  have unchanged : after.record = session.record :=
    record_of_checksOnly plain checksOnly clears session
  refine ⟨unchanged, ?_⟩
  rintro rfl
  exact run_alike plain checksOnly after session unchanged

/-- A pass of the contact form in a scenario, over all that is active there. -/
def contactPass (scenario : Value) : Pass PlainRecord :=
  unobserved (resolve (.text "default") contactValidators) contactValidators scenario .null true

/-- A contact that has a mail and no nickname. -/
def contactSession : Session PlainRecord where
  record := { values := ⟨[(.text "mail", .text "y")]⟩, labels := none }
  errors := .empty
  events := []

/-- In `import` the contact form fills in the nickname, which is an attribute of the validator that
does so. In its default scenario it fills in nothing, complains about the mail, and does so
again. -/
theorem writes_only_transformed_contact :
    let host := contactSession.record.host
    let imported := ((contactPass (.text "import")).run host).final contactSession
    let checked := ((contactPass (.text "default")).run host).final contactSession
    imported.record.read (.text "nick") = .ok (.text "anon") ∧
      (∃ validator ∈ contactValidators, validator.appliesTo (.text "import") = true ∧
        validator.transforms = true ∧ "nick" ∈ validator.attributeNames) ∧
      checked.record = contactSession.record ∧
      checked.errors = ⟨⟨[(.text "mail", [.text "short", .text "taken", .text "nope"])]⟩⟩ ∧
      (((contactPass (.text "default")).run host).final checked).errors = checked.errors := by
  intro host imported checked
  have calls : ∀ scenario : Value, ∀ validator ∈ contactValidators,
      validator.appliesTo scenario = true → validator.CallsKeep host Session.record := by
    intro scenario validator present _
    have reads : ∀ validator ∈ contactValidators, validator.readsOnly = true := by decide
    exact contactSession.record.callsKeep_record (reads validator present)
  obtain ⟨covered, -⟩ := writes_only_transformed contactSession.record
    (resolve (.text "default") contactValidators) contactValidators (.text "import") .null true
    contactSession (calls _)
  obtain ⟨-, again⟩ := writes_only_transformed contactSession.record
    (resolve (.text "default") contactValidators) contactValidators (.text "default") .null true
    contactSession (calls _)
  have filled : imported.record.read (.text "nick") = .ok (.text "anon") := rfl
  have absent : contactSession.record.read (.text "nick") = .ok .null := rfl
  have changed : imported.record.read (.text "nick") ≠
      contactSession.record.read (.text "nick") := by
    rw [filled, absent]
    simp
  obtain ⟨-, -, -, -, -, validator, present, active, transforms, own, isOwn, same⟩ :=
    covered (.text "nick") changed
  obtain ⟨unchanged, repeated⟩ := again (by decide)
  refine ⟨filled, ⟨validator, present, active, transforms, ?_⟩, unchanged, rfl, (repeated rfl).2⟩
  rw [Value.text.inj same]
  exact isOwn

end Pass

end RecordValidation
