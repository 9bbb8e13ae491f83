import RecordValidation.Proofs.Stages

/-!
# What work on a plain record depends on and what it leaves alone

A plain record cannot be asked for its errors, and a script can only write its attributes, leave
notes and stop. So whatever is called on it leaves the errors as they are, and sees nothing of the
session but the record: `PlainRecord.keepsErrors_hook`, `PlainRecord.callsKeep_errors` and
`PlainRecord.seesOnly_ask`.
-/

namespace RecordValidation

/-- Whether an action writes an attribute. -/
def ActionOf.writes : Action → Bool
  | .set .. => true
  | _ => false

/-- Whether the function that a validator calls for complaints has no action that writes. -/
def ValidatorOf.readsOnly (validator : Validator) : Bool :=
  match validator.check with
  | .inline (.script (.inline actions _)) .. => actions.all fun action => !action.writes
  | _ => true

namespace PlainRecord

variable (plain : PlainRecord)

/-- What a plain record is asked for has a compositional property if asking for the record has it.
Its questions depend on nothing but the record, and it has no errors to be asked for. -/
theorem offers {holds : ∀ ⦃α : Type⦄, Act PlainRecord α → Prop}
    (closed : Act.Compositional holds) (record : holds Act.record) : plain.host.Offers holds where
  toCompositional := closed
  record := record
  read asked name := closed.ofOutcome (plain.faultsIn_host.read asked name)
  label label labelled asked name :=
    closed.ofOutcome (plain.faultsIn_host.label label labelled asked name)
  asSequence asked := closed.ofOutcome (plain.faultsIn_host.asSequence asked)
  errors knows := by cases knows

/-! ## Leaving the errors -/

/-- No action of a script touches the errors. -/
theorem keepsErrors_perform (action : Action) :
    Act.Keeps Session.errors (plain.host.perform action) := by
  cases action with
  | set name value => exact plain.host.keeps_set (fun _ _ => rfl) name value
  | note text => exact Act.keeps_modify fun _ => rfl
  | _ => exact Act.keeps_ofOutcome (.error _)

/-- No observer touches the errors. -/
theorem keepsErrors_hook (hook : Hook) : Act.Keeps Session.errors (hook.run plain.host) := by
  have closed := Act.compositional_keeps (ρ := PlainRecord) Session.errors
  refine closed.bind ?_ fun _ => closed.pure _
  exact closed.forM hook.actions fun action _ => plain.keepsErrors_perform action

/-- No function that is called for complaints touches the errors. A script that is called by name
stops, because a plain record has no methods. -/
theorem callsKeep_errors (validator : Validator) :
    validator.CallsKeep plain.host Session.errors := by
  intro method params bound _ name
  exact (plain.host.keepsOffers Session.errors).inlineComplaints method params bound name
    (fun _ _ _ action _ => plain.keepsErrors_perform action)
    fun _ _ => Act.keeps_ofOutcome (.error _)

/-! ## Leaving the record -/

/-- A function that is called for complaints leaves the record if it has no action that writes.
Writing is the only action with an effect on the record, and the premise excludes it. -/
theorem callsKeep_record {validator : Validator} (reads : validator.readsOnly = true) :
    validator.CallsKeep plain.host Session.record := by
  intro method params bound isInline name
  refine (plain.host.keepsOffers Session.record).inlineComplaints method params bound name ?_
    fun _ _ => Act.keeps_ofOutcome (.error _)
  rintro actions answer rfl action performed
  rw [ValidatorOf.readsOnly, isInline] at reads
  have silent := List.all_eq_true.1 reads action performed
  cases action with
  | set name value => cases silent
  | note text => exact Act.keeps_modify fun _ => rfl
  | _ => exact Act.keeps_ofOutcome (.error _)

/-! ## Seeing only the record -/

/-- What a plain record is asked for sees only the record. -/
theorem seesOnlyOffers :
    plain.host.Offers fun _ work => Act.SeesOnly Session.record work :=
  plain.offers (Act.compositional_seesOnly _) (Act.seesOnly_get fun _ _ same => same)

/-- Writing a record sees only the record. -/
theorem seesOnly_setRecord (changed : PlainRecord) :
    Act.SeesOnly Session.record (Act.setRecord changed) :=
  Act.seesOnly_modify fun _ _ _ => rfl

/-- Writing an attribute sees only the record. -/
theorem seesOnly_set (name value : Value) :
    Act.SeesOnly Session.record (plain.host.set name value) := by
  have offers := plain.seesOnlyOffers
  refine offers.bind offers.record fun record => ?_
  exact offers.bind (Act.seesOnly_ofOutcome _) fun changed => seesOnly_setRecord changed

/-- Observing something sees nothing. -/
theorem seesOnly_observe (event : Event) :
    Act.SeesOnly Session.record (Act.observe event : Act PlainRecord Unit) :=
  Act.seesOnly_modify fun _ _ same => same

/-- An action of a script sees only the record. A note goes to the events, but what is written in it
does not depend on them. -/
theorem seesOnly_perform (action : Action) :
    Act.SeesOnly Session.record (plain.host.perform action) := by
  cases action with
  | set name value => exact plain.seesOnly_set name value
  | note text => exact seesOnly_observe _
  | _ => exact Act.seesOnly_ofOutcome (.error _)

/-- What is asked in a turn sees only the record. Everything that a turn asks for is asked of the
record, and a script called for complaints performs its actions on it. -/
theorem seesOnly_ask (turn : Turn) :
    Act.SeesOnly Session.record (turn.ask plain.host) := by
  have offers := plain.seesOnlyOffers
  refine Turn.holds_ask offers turn (fun _ value => plain.seesOnly_set _ value) ?_
  intro method params bound _
  exact offers.inlineComplaints method params bound _
    (fun _ _ _ action _ => plain.seesOnly_perform action)
    fun _ _ => Act.seesOnly_ofOutcome (.error _)

end PlainRecord

end RecordValidation
