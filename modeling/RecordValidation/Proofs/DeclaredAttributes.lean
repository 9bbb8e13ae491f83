import RecordValidation.Proofs.AttributeSet
import RecordValidation.Proofs.CompileFaults
import RecordValidation.Proofs.RequiredAttributes
import RecordValidation.Proofs.UncompiledRules

/-!
# Rules that stay within the declared attributes

A model refuses to read or write an attribute that its schema does not declare. Which attributes a
validator asks for follows from its declaration: those it covers, those it compares them with, and
those that its guard or its default reads (`ValidatorOf.StaysWithin`). Which names a caller asks to
be checked makes no difference, since a validator only looks at names that are its own.

`Act.Secures` is what one piece of work needs for this: as long as the model holds what its schema
declares, the work stops for no other reason than allowed ones, and the model still holds it
afterwards. It is shown of everything a pass consists of, and
`declared_rules_never_unknown` draws the conclusion: a model whose validators stay within its schema
can be validated in any scenario and for any names without being asked for an unknown attribute.
-/

namespace RecordValidation

/-! ## Work that is safe under an invariant -/

namespace Act

variable {ρ α β : Type} {invariant : Session ρ → Prop} {allowed : Fault → Prop}

/-- Work that begins in a session with an invariant stops with none but allowed faults, gives none
but expected results, and leaves a session with the invariant, whether or not it stops. -/
structure Secures (invariant : Session ρ → Prop) (allowed : Fault → Prop) (expected : α → Prop)
    (work : Act ρ α) : Prop where
  faults : ∀ session, invariant session → Outcome.FaultsIn allowed (work.outcome session)
  results : ∀ session, invariant session →
    ∀ value, work.outcome session = .ok value → expected value
  leaves : Preserves invariant work

/-- Work that only gives a result is safe if the result is expected. -/
theorem secures_pure {expected : α → Prop} {value : α} (held : expected value) :
    Secures invariant allowed expected (pure value : Act ρ α) where
  faults _ _ := Outcome.faultsIn_ok value
  results _ _ _ done := Except.ok.inj done ▸ held
  leaves _ kept := kept

/-- Two pieces of work are safe if the first is, and the second is for each result expected of the
first. The results are what ties them: what the second needs to know of a value is what the first
promises of it. -/
theorem Secures.bind {middle : α → Prop} {expected : β → Prop} {first : Act ρ α}
    {next : α → Act ρ β} (before : Secures invariant allowed middle first)
    (after : ∀ value, middle value → Secures invariant allowed expected (next value)) :
    Secures invariant allowed expected (first >>= next) := by
  constructor
  case faults =>
    intro session held
    rw [outcome_bind]
    cases reached : first.outcome session with
    | ok value =>
      have isExpected := before.results session held value reached
      exact (after value isExpected).faults _ (before.leaves session held)
    | error fault => exact Outcome.faultsIn_error (before.faults session held fault reached)
  case results =>
    intro session held result done
    obtain ⟨value, reached, done⟩ := outcome_bind_eq_ok_iff.1 done
    have isExpected := before.results session held value reached
    exact (after value isExpected).results _ (before.leaves session held) result done
  case leaves =>
    intro session held
    rw [final_bind]
    cases reached : first.outcome session with
    | ok value =>
      have isExpected := before.results session held value reached
      exact (after value isExpected).leaves _ (before.leaves session held)
    | error fault => exact before.leaves session held

/-- Work of which nothing is expected but that it is safe is so piece by piece. As nothing is
expected of results, none has to be promised to the next piece, and the faults of values are among
the allowed ones because work may always stop by looking at values. -/
theorem compositional_secures (ofValues : ∀ fault : Fault, fault.IsLocal → allowed fault) :
    Compositional fun _ work => Secures (ρ := ρ) invariant allowed (fun _ => True) work where
  pure _ := secures_pure trivial
  throw fault isLocal := by
    constructor
    case faults => exact fun _ _ => Outcome.faultsIn_error (ofValues fault isLocal)
    case results => exact fun _ _ _ _ => trivial
    case leaves => exact fun _ held => held
  bind before after := before.bind fun value _ => after value

end Act

/-! ## What stops a pass before its turns -/

/-- The faults of a pass that is not asked for an unknown attribute: those of values and
declarations, and that the scenario is not declared. -/
def Fault.OfPass : Fault → Prop
  | unknownScenario .. => True
  | fault => fault.IsLocal

/-- What comes from values and declarations may stop a pass. -/
theorem Fault.IsLocal.ofPass {fault : Fault} (held : fault.IsLocal) : fault.OfPass := by
  cases fault with
  | unknownScenario => trivial
  | _ => exact held

namespace Outcome

/-- Steps that carry a state through a list are stopped by what stops one of them. -/
theorem faultsIn_foldlM {α β : Type} {allowed : Fault → Prop} {step : β → α → Outcome β}
    {items : List α} (held : ∀ item ∈ items, ∀ state, FaultsIn allowed (step state item))
    (start : β) : FaultsIn allowed (items.foldlM step start) := by
  induction items generalizing start with
  | nil => exact faultsIn_ok start
  | cons item rest inductionHypothesis =>
    obtain ⟨first, others⟩ := List.forall_mem_cons.1 held
    rw [List.foldlM_cons]
    exact (first start).bind fun state => inductionHypothesis others state

end Outcome

open Outcome

/-- Only names that are none stop scenarios from being worked out. -/
theorem faultsIn_resolve (default : Value) (validators : List Validator) :
    FaultsIn Fault.IsLocal (resolve default validators) :=
  (Value.faultsIn_asNames _).isLocal.bind fun _ => faultsIn_ok _

namespace ScenarioMap

/-- Only names that are none and descriptors that cannot be gone through stop declared scenarios
from being read. -/
theorem faultsIn_ofDeclared (entries : List (Value × Value)) :
    FaultsIn Fault.IsLocal (ofDeclared entries) := by
  apply FaultsIn.map
  unfold ofEntries
  refine FaultsIn.bind (faultsIn_mapM entries fun entry => ?_) fun named => ?_
  · exact entry.1.faultsIn_asName.isLocal.bind fun _ => faultsIn_ok _
  · refine FaultsIn.bind (faultsIn_mapM _ fun entry => ?_) fun _ => faultsIn_ok _
    exact entry.2.faultsIn_items.isLocal.bind fun _ => faultsIn_ok _

end ScenarioMap

/-- Which validators are active is stopped by descriptors and requests that are no names. By
induction on the validators; those that do not apply are not asked. -/
theorem faultsIn_activeValidators (scenario names : Value) (validators : List Validator) :
    FaultsIn Fault.IsLocal (activeValidators scenario names validators) := by
  induction validators with
  | nil => exact faultsIn_ok []
  | cons validator rest inductionHypothesis =>
    have chosen : FaultsIn Fault.IsLocal (validator.isActive scenario names) := by
      unfold ValidatorOf.isActive
      split
      · split
        · exact faultsIn_ok true
        · exact (validator.faultsIn_coveredBy _).map _
      · exact faultsIn_ok false
    exact chosen.bind fun _ => inductionHypothesis.bind fun _ => faultsIn_ok _

namespace Pass

variable {ρ : Type}

/-- What names a pass checks is stopped by names and descriptors that are none. -/
theorem faultsIn_checkedNames (pass : Pass ρ) (known : ScenarioMap) :
    FaultsIn Fault.IsLocal (pass.checkedNames known) := by
  unfold checkedNames
  split
  · refine FaultsIn.map _ (pass.scenario.faultsIn_asName.isLocal.bind fun _ => ?_)
    exact Descriptor.faultsIn_names _
  · exact (Value.faultsIn_items _).isLocal

/-- What turns a pass has is stopped by values and declarations, and if its scenario is not
declared. There is one fault of a pass that does not come from values and declarations, and it is
thrown here. -/
theorem faultsIn_turnsIn (pass : Pass ρ) {scenarios : Outcome ScenarioMap}
    (fromValues : FaultsIn Fault.IsLocal scenarios) (validators : List Validator) :
    FaultsIn Fault.OfPass (pass.turnsIn scenarios validators) := by
  have ofValues {α : Type} {outcome : Outcome α} (held : FaultsIn Fault.IsLocal outcome) :
      FaultsIn Fault.OfPass outcome := held.mono fun _ => Fault.IsLocal.ofPass
  have declares (known : ScenarioMap) : FaultsIn Fault.IsLocal (known.declares pass.scenario) :=
    pass.scenario.faultsIn_asName.isLocal.bind fun _ => faultsIn_ok _
  have chooses (known : ScenarioMap) : FaultsIn Fault.OfPass (do
      let names ← pass.checkedNames known
      let _ ← activeValidators pass.scenario (.list names) validators
      return turns pass.scenario names validators) := by
    refine (ofValues (pass.faultsIn_checkedNames known)).bind fun names => ?_
    exact (ofValues (faultsIn_activeValidators _ _ validators)).bind fun _ => faultsIn_ok _
  refine (ofValues fromValues).bind fun known => (ofValues (declares known)).bind fun declared => ?_
  cases declared with
  | true => exact chooses known
  | false => exact faultsIn_error trivial

end Pass

/-! ## What stays within a schema -/

/-- A value is the name of an attribute that a schema declares. -/
def Schema.Declares (schema : Schema) (name : Value) : Prop := name ∈ schema.names.map .text

instance (schema : Schema) (name : Value) : Decidable (schema.Declares name) :=
  decidable_of_iff (name.text?.any schema.names.contains = true) <| by
    cases name <;> simp [Value.text?, Schema.Declares]

/-- A validator stays within a schema: its check is no function, and at each of its attributes it
asks for declared attributes alone. -/
structure ValidatorOf.StaysWithin (validator : Validator) (schema : Schema) : Prop where
  builtIn : validator.check.kind ≠ .inline
  asks : ∀ own ∈ validator.attributeNames, validator.AsksWithin schema.Declares (.text own)

instance (validator : Validator) (schema : Schema) : Decidable (validator.StaysWithin schema) :=
  decidable_of_iff (validator.check.kind ≠ .inline ∧
      ∀ own ∈ validator.attributeNames, validator.AsksWithin schema.Declares (.text own))
    ⟨fun ⟨builtIn, asks⟩ => ⟨builtIn, asks⟩, fun within => ⟨within.builtIn, within.asks⟩⟩

/-- Whether an action has to do with more of a model than its errors: with its attributes, its
scenario or its validators. -/
def ActionOf.touchesRecord : Action → Bool
  | .set .. | .enter _ | .inject _ | .resetValidators => true
  | _ => false

namespace Model

/-- The observers of a model leave the model alone but for its errors. -/
def IsLeftAlone (model : Model) : Prop :=
  ∀ hook ∈ (model.type.beforeHook :: model.before) ++ model.type.afterHook :: model.after,
    ∀ action ∈ hook.actions, action.touchesRecord = false

/-- A session on an intact model that keeps some validators. -/
structure Settled (type : ModelType) (cache : ValidatorCache) (session : Session Model) : Prop
    extends Intact type session where
  cached : session.record.cache = cache

variable {type : ModelType} {cache : ValidatorCache}

/-- Whether a session is settled is seen from its model. -/
theorem Settled.of_record_eq {session other : Session Model} (settled : Settled type cache session)
    (same : other.record = session.record) : Settled type cache other := by
  refine ⟨⟨?_, ?_⟩, ?_⟩
  · rw [same, settled.ofType]
  · rw [same]
    exact settled.follows
  · rw [same, settled.cached]

/-- Work is safe on a settled model: it stops for reasons that may stop a pass, and leaves the model
settled. -/
def Safe (type : ModelType) (cache : ValidatorCache) ⦃α : Type⦄ (work : Act Model α) : Prop :=
  Act.Secures (Settled type cache) Fault.OfPass (fun _ => True) work

/-- Work is safe piece by piece. -/
theorem compositional_safe : Act.Compositional (Safe type cache) :=
  Act.compositional_secures fun _ => Fault.IsLocal.ofPass

/-- Work that leaves the model as it is and stops for allowed reasons is safe. Being settled is a
property of the model alone, so the only thing to show is what stops the work. -/
theorem safe_of_keeps {α : Type} {work : Act Model α} (keeps : Act.Keeps Session.record work)
    (faults : ∀ session, Settled type cache session →
      FaultsIn Fault.IsLocal (work.outcome session)) : Safe type cache work where
  faults session settled := (faults session settled).mono fun _ => Fault.IsLocal.ofPass
  results _ _ _ _ := trivial
  leaves session settled := settled.of_record_eq (keeps session)

/-! ## What a settled model is asked for -/

/-- A declared attribute can be read. -/
theorem Intact.exists_read {session : Session Model} (intact : Intact type session) {name : Value}
    (declared : type.schema.Declares name) : ∃ value, session.record.read name = .ok value := by
  obtain ⟨text, -, rfl⟩ := List.mem_map.1 declared
  exact exists_read_of_contains (Value.isName_text text) ((intact.contains_iff _).2 declared)

/-- The label of an attribute is stopped by what is no name. A label that is not set is generated,
from a text. -/
theorem faultsIn_label (model : Model) (name : Value) :
    FaultsIn Fault.IsLocal (model.label name) := by
  refine name.faultsIn_asName.isLocal.bind fun key => ?_
  split
  · exact faultsIn_ok _
  · unfold ModelType.generatedLabel
    split
    · exact faultsIn_ok _
    · exact faultsIn_error trivial

/-- An intact model can be gone through. Going through it reads each of its attributes, and all of
them are declared. -/
theorem Intact.faultsIn_asSequence {session : Session Model} (intact : Intact type session) :
    FaultsIn Fault.IsLocal session.record.asSequence := by
  have reads : ∀ name ∈ session.record.attributeNames,
      FaultsIn Fault.IsLocal (session.record.read name) := by
    intro name present
    rw [attributeNames, intact.ofType] at present
    obtain ⟨value, read⟩ := intact.exists_read present
    rw [read]
    exact faultsIn_ok value
  have readsAll (skipped : List Value) : FaultsIn Fault.IsLocal
      (session.record.readAll skipped session.record.attributeNames) := by
    unfold readAll
    split
    · exact faultsIn_ok _
    · refine faultsIn_foldlM (fun name present table => ?_) _
      refine name.faultsIn_asName.isLocal.bind fun key => ?_
      split
      · exact faultsIn_ok _
      · exact (reads name present).bind fun _ => faultsIn_ok _
  have skips : FaultsIn Fault.IsLocal (Value.tuple []).nameSet :=
    (Value.faultsIn_items _).isLocal.bind fun items => (Value.faultsIn_asNames items).isLocal
  exact FaultsIn.bind (skips.bind readsAll) fun _ => faultsIn_ok _

section

variable {invoke : String → Value → Value → Act Model Value}

/-- What a settled model is asked for at declared attributes is safe. All of these are looking, so
each leaves the model, and the faults are those of looking at values once it is known that a
declared attribute is read. -/
theorem safeOffersAt : (hostWith type invoke).OffersAt type.schema.Declares (Safe type cache) where
  toCompositional := compositional_safe
  get name declared := by
    have keeps : Act.Keeps Session.record ((hostWith type invoke).get name) :=
      (Host.keepsOffers _ _).get name
    refine safe_of_keeps keeps fun session settled => ?_
    obtain ⟨value, read⟩ := settled.exists_read declared
    have got : ((hostWith type invoke).get name).outcome session = .ok value :=
      (Act.outcome_ofOutcome _ session).trans read
    rw [got]
    exact faultsIn_ok value
  labelOf name := by
    have keeps : Act.Keeps Session.record ((hostWith type invoke).labelOf name) :=
      (Host.keepsOffers _ _).labelOf name
    refine safe_of_keeps keeps fun session _ => ?_
    have labelled : ((hostWith type invoke).labelOf name).outcome session =
        session.record.label name := Act.outcome_ofOutcome _ session
    rw [labelled]
    exact faultsIn_label session.record name
  sequence := by
    have keeps : Act.Keeps Session.record (do
        Act.ofOutcome ((hostWith type invoke).asSequence (← Act.record)) : Act Model Value) :=
      (Host.keepsOffers _ _).toOffersAt.sequence
    refine safe_of_keeps keeps fun session settled => ?_
    have listed : (do
        Act.ofOutcome ((hostWith type invoke).asSequence (← Act.record)) :
        Act Model Value).outcome session = session.record.asSequence :=
      Act.outcome_ofOutcome _ session
    rw [listed]
    exact settled.faultsIn_asSequence
  errors _ := safe_of_keeps Act.keeps_errors fun _ _ => faultsIn_ok _

/-- Writing a declared attribute is safe. It cannot stop, and what it writes is the value of an
attribute that was there. -/
theorem safe_set {name : Value} (declared : type.schema.Declares name) (value : Value) :
    Safe type cache ((hostWith type invoke).set name value) := by
  have writes (session : Session Model) (settled : Settled type cache session) :
      ∃ after, ((hostWith type invoke).set name value).run session = .ok () after ∧
        Wrote name value session after := settled.run_set_of_declared value declared
  constructor
  case faults =>
    intro session settled
    obtain ⟨after, written, -⟩ := writes session settled
    rw [(Act.run_eq_ok_iff.1 written).1]
    exact faultsIn_ok ()
  case results => exact fun _ _ _ _ => trivial
  case leaves =>
    intro session settled
    obtain ⟨after, written, wrote⟩ := writes session settled
    have intact := preserves_intact_set name value session settled.toIntact
    refine ⟨intact, ?_⟩
    rw [(Act.run_eq_ok_iff.1 written).2, wrote.rest]
    exact settled.cached

/-- Adding a message is safe. -/
theorem safe_addError (name message : Value) :
    Safe type cache (Act.addError name message : Act Model Unit) := by
  have changes (key : Value) : Safe type cache
      (Act.modifyErrors (·.add key message) : Act Model Unit) :=
    safe_of_keeps (fun _ => rfl) fun _ _ => faultsIn_ok ()
  exact compositional_safe.bind (compositional_safe.ofOutcome name.faultsIn_asName.isLocal) changes

/-- An action that leaves the model alone is safe. What is left are changes of the errors, events
and an exception that the script raises. -/
theorem safe_perform {action : Action} (apart : action.touchesRecord = false) :
    Safe type cache (perform action) := by
  have observes (event : Event) : Safe type cache (Act.observe event : Act Model Unit) :=
    safe_of_keeps (fun _ => rfl) fun _ _ => faultsIn_ok ()
  have changes (change : ErrorBag → ErrorBag) :
      Safe type cache (Act.modifyErrors change : Act Model Unit) :=
    safe_of_keeps (fun _ => rfl) fun _ _ => faultsIn_ok ()
  have asksErrors : Safe type cache (Act.errors : Act Model ErrorBag) :=
    safe_of_keeps Act.keeps_errors fun _ _ => faultsIn_ok _
  cases action with
  | addError name message => exact safe_addError name message
  | clearErrors name =>
    simp only [perform, Act.clearErrors]
    split
    · exact changes _
    · exact compositional_safe.bind (compositional_safe.ofOutcome name.faultsIn_asName.isLocal)
        fun _ => changes _
  | note text => exact observes _
  | noteErrors => exact compositional_safe.bind asksErrors fun _ => observes _
  | raise message => exact compositional_safe.throw _ trivial
  | _ => cases apart

/-- An observer that leaves the model alone is safe. -/
theorem safe_hook {hook : Hook} (apart : ∀ action ∈ hook.actions, action.touchesRecord = false) :
    Safe type cache (hook.run (hostWith type invoke)) := by
  refine compositional_safe.bind ?_ fun _ => compositional_safe.pure hook.answer
  exact compositional_safe.forM hook.actions fun action present =>
    safe_perform (apart action present)

/-- A turn of a validator that stays within the schema, at one of its attributes, is safe. It
writes, if it transforms, to the attribute the turn is at, which is declared because a validator
that stays within asks for it. -/
theorem safe_take {turn : Turn} (within : turn.validator.StaysWithin type.schema)
    (own : turn.name ∈ turn.validator.attributeNames) :
    Safe type cache (turn.take (hostWith type invoke)) := by
  have asksWithin := within.asks turn.name own
  have asks : Safe type cache (turn.ask (hostWith type invoke)) := by
    refine Turn.holds_ask_of_asksWithin safeOffersAt asksWithin ?_ ?_
    · exact fun _ value => safe_set asksWithin.own value
    · intro method params bound kind
      exact absurd (congrArg CheckOf.kind kind) within.builtIn
  have asksErrors : Safe type cache (Act.errors : Act Model ErrorBag) :=
    safe_of_keeps Act.keeps_errors fun _ _ => faultsIn_ok _
  exact Turn.holds_take compositional_safe asksErrors asks (safe_addError _)

end

/-! ## A pass over a settled model -/

/-- A model that keeps its validators works out its scenarios without leaving the session, and is
stopped in this by values and declarations alone. Asking for validators that are kept changes
nothing, and the cases are where the scenarios come from: from the rules, from a declaration, or
from both. -/
theorem exists_run_scenarioMap {session : Session Model} {active : List Validator}
    (kept : session.record.cache.current = some active) :
    ∃ scenarios, FaultsIn Fault.IsLocal scenarios ∧
      scenarioMap.run session = (Act.ofOutcome scenarios).run session := by
  have resolved : resolvedScenarios.run session =
      (Act.ofOutcome (resolve ScenarioMap.defaultScenario active)).run session := by
    have inForce : session.record.inForce = .ok active := by rw [Model.inForce, kept]
    rw [resolvedScenarios, EStateM.run_bind, run_validators inForce, keeping, kept]
  cases declares : session.record.type.scenarios with
  | none =>
    exact ⟨_, faultsIn_resolve _ active, run_scenarioMap_of_kept declares kept⟩
  | some declared =>
    cases onTop : declared.onTop with
    | false =>
      refine ⟨_, ScenarioMap.faultsIn_ofDeclared declared.entries, ?_⟩
      rw [scenarioMap, EStateM.run_bind, Act.run_record]
      simp only [declares, onTop, Bool.false_eq_true, ↓reduceIte, pure_bind, List.nil_append]
    | true =>
      refine ⟨do
        let base ← asDeclared <$> resolve ScenarioMap.defaultScenario active
        ScenarioMap.ofDeclared (base ++ declared.entries), ?_, ?_⟩
      · exact ((faultsIn_resolve _ active).map _).bind fun base =>
          ScenarioMap.faultsIn_ofDeclared _
      · rw [scenarioMap, EStateM.run_bind, Act.run_record]
        simp only [declares, onTop, ↓reduceIte, map_eq_pure_bind, bind_assoc, pure_bind]
        rw [EStateM.run_bind, resolved]
        cases resolve ScenarioMap.defaultScenario active <;> rfl

section

variable {pass : Pass Model} {active : List Validator} (kept : cache.current = some active)
  (asksScenarios : pass.scenarioMap = scenarioMap)
  (asksValidators : ∀ session : Session Model, session.record.cache = cache →
    pass.validators.run session = .ok active session)
  (within : ∀ validator ∈ active, validator.StaysWithin type.schema)

include kept asksScenarios asksValidators within

/-- Settling the turns of a pass is safe, and its turns are of validators that stay within the
schema, at their own attributes. What is expected of the turns is what makes each of them safe, so
it is kept as the result of settling. -/
theorem secures_settle :
    Act.Secures (Settled type cache) Fault.OfPass
      (fun turns : List Turn => ∀ turn ∈ turns,
        turn.validator.StaysWithin type.schema ∧ turn.name ∈ turn.validator.attributeNames)
      pass.settle := by
  have settles (session : Session Model) (settled : Settled type cache session) :
      ∃ scenarios, FaultsIn Fault.IsLocal scenarios ∧ pass.settle.run session =
        (Act.ofOutcome (pass.turnsIn scenarios active)).run session := by
    have isKept : session.record.cache.current = some active := by rw [settled.cached, kept]
    obtain ⟨scenarios, fromValues, worksOut⟩ := exists_run_scenarioMap isKept
    rw [← asksScenarios] at worksOut
    exact ⟨scenarios, fromValues,
      Pass.run_settle_of_lists worksOut (asksValidators session settled.cached)⟩
  constructor
  case faults =>
    intro session settled
    obtain ⟨scenarios, fromValues, runs⟩ := settles session settled
    rw [Act.outcome_congr runs, Act.outcome_ofOutcome]
    exact pass.faultsIn_turnsIn fromValues active
  case results =>
    intro session settled turns planned turn taken
    obtain ⟨scenarios, fromValues, runs⟩ := settles session settled
    rw [Act.outcome_congr runs, Act.outcome_ofOutcome] at planned
    obtain ⟨present, -, own, -⟩ := Pass.of_mem_turnsIn planned taken
    exact ⟨within turn.validator present, own⟩
  case leaves =>
    intro session settled
    obtain ⟨scenarios, fromValues, runs⟩ := settles session settled
    rw [Act.final_congr runs]
    exact Act.preserves_ofOutcome _ session settled

/-- A pass whose observers leave the model alone is safe. The observers, the turns and the report
are safe each, and what the turns need to know is what settling promises. -/
theorem safe_enter_finish {invoke : String → Value → Value → Act Model Value}
    (apart : ∀ hook ∈ pass.before ++ pass.after,
      ∀ action ∈ hook.actions, action.touchesRecord = false) :
    Safe type cache
      (pass.enter (hostWith type invoke) >>= pass.finish (hostWith type invoke)) := by
  have closed : Act.Compositional (Safe type cache) := compositional_safe
  have observes (event : Event) : Safe type cache (Act.observe event : Act Model Unit) :=
    safe_of_keeps (fun _ => rfl) fun _ _ => faultsIn_ok ()
  have asksErrors : Safe type cache (Act.errors : Act Model ErrorBag) :=
    safe_of_keeps Act.keeps_errors fun _ _ => faultsIn_ok _
  have opens : Safe type cache (Pass.opens (hostWith type invoke) pass.before) :=
    closed.opens fun hook present => safe_hook (apart hook (List.mem_append_left _ present))
  have concludes : Safe type cache (pass.conclude (hostWith type invoke)) := by
    refine closed.bind (closed.runAll fun hook present => ?_) fun _ => ?_
    · exact safe_hook (apart hook (List.mem_append_right _ present))
    · exact closed.bind asksErrors fun _ => closed.bind (observes _) fun _ => closed.pure _
  have finishes (turns : List Turn) (stay : ∀ turn ∈ turns,
      turn.validator.StaysWithin type.schema ∧ turn.name ∈ turn.validator.attributeNames) :
      Safe type cache (pass.finish (hostWith type invoke) (some turns)) := by
    refine closed.bind (closed.forM turns fun turn taken => ?_) fun _ => concludes
    obtain ⟨isWithin, own⟩ := stay turn taken
    exact closed.bind (safe_take isWithin own) fun _ => closed.pure ()
  rw [Pass.enter, bind_assoc]
  refine closed.bind opens fun goesOn => ?_
  cases goesOn with
  | true =>
    simp only [↓reduceIte, map_eq_pure_bind, bind_assoc, pure_bind]
    exact (secures_settle kept asksScenarios asksValidators within).bind finishes
  | false =>
    simp only [Bool.false_eq_true, ↓reduceIte, bind_assoc, pure_bind]
    exact closed.bind (observes _) fun _ => closed.pure false

end

section

variable {session : Session Model} {active : List Validator}
  (inForce : session.record.inForce = .ok active)

include inForce

/-- An intact model that keeps its validators is settled. -/
theorem Intact.settled_keeping (intact : Intact type session) :
    Settled type (session.record.cache.keep active) (keeping active session) := by
  obtain ⟨cache, record⟩ := record_keeping active session
  refine ⟨⟨?_, ?_⟩, cache_keeping inForce⟩
  · rw [record]
    exact intact.ofType
  · rw [record]
    exact intact.follows

/-- As long as a model keeps its validators, the pass it began works with these. -/
theorem run_validators_passFrom_of_kept (names clears : Value) (other : Session Model)
    (kept : other.record.cache = session.record.cache.keep active) :
    (passFrom active session names clears).validators.run other = .ok active other := by
  have found : other.record.cache.atGeneration
      (keeping active session).record.cache.generation = active := by
    rw [kept, cache_keeping inForce]
    exact ValidatorCache.atGeneration_keep session.record.cache active
  exact congrArg (EStateM.Result.ok · other) found

end

/-- Validating an intact model whose validators stay within its schema, and whose observers leave it
alone, is stopped by values and declarations and by a scenario that is not declared, and by nothing
else.

Proof: rules that do not compile stop the validation before anything else. Otherwise the pass begins
on a model that keeps its validators, and nothing in it makes the model forget them; so it takes
turns of validators that stay within the schema, each at one of its own attributes. -/
theorem faultsIn_validate {session : Session Model} (intact : Intact type session)
    (within : ∀ active, session.record.inForce = .ok active →
      ∀ validator ∈ active, validator.StaysWithin type.schema)
    (apart : session.record.IsLeftAlone) (names clears : Value) :
    FaultsIn Fault.OfPass ((validate names clears).outcome session) := by
  cases inForce : session.record.inForce with
  | error fault =>
    have bare : Bare type session ∧ compile .builtin (some type.owner) type.rules =
        .error fault := by
      unfold Model.inForce at inForce
      split at inForce
      · cases inForce
      · rename_i nothingKept
        rw [intact.ofType] at inForce
        exact ⟨⟨intact.ofType, nothingKept, intact.follows⟩, inForce⟩
    obtain ⟨bare, refused⟩ := bare
    have stops : (validate names clears).run session = .error fault session :=
      Act.run_bind_of_error (run_validators_of_refused refused bare)
    rw [(Act.run_eq_error_iff.1 stops).1]
    exact faultsIn_error (faultsIn_compile _ _ _ fault refused).ofPass
  | ok active =>
    have settled := intact.settled_keeping inForce
    have observed : ∀ hook ∈ (passFrom active session names clears).before ++
          (passFrom active session names clears).after,
        ∀ action ∈ hook.actions, action.touchesRecord = false := by
      obtain ⟨cache, record⟩ := record_keeping active session
      unfold passFrom pass
      rw [record]
      exact apart
    have runs : (validate names clears).run session =
        ((passFrom active session names clears).run
          (passHost (keeping active session).record.type (depthLimit - 1))).run
          (keeping active session) := run_validateTo (depthLimit - 1) inForce
    rw [Pass.run_eq_stages, settled.ofType] at runs
    rw [Act.outcome_congr runs]
    have found := run_validators_passFrom_of_kept inForce names clears
    exact (safe_enter_finish rfl rfl found (within active inForce) observed).faults _
      (settled.of_record_eq rfl)

/-- Rules that stay within the declared attributes never meet an unknown one.

Take a model that holds what its schema declares, as every model does, in any scenario. Let its
validators be built in, let each of their attributes, without the mark, be declared, and each
attribute that one of these is compared with, the one named like it with `_repeat` behind it if
none is named; let guards and defaults read declared attributes alone, if any at all, and let the
observers of the model leave it alone but for its errors. Then a validation never stops because the
model was asked for an unknown attribute, whatever names it is asked to check, declared or not, and
whether or not it clears the errors first.

Proof: everything that a pass consists of is safe while the model holds what its schema declares,
and leaves the model that way, since a transform writes nothing but an attribute of its own. -/
theorem declared_rules_never_unknown {type : ModelType} {session : Session Model}
    (intact : Intact type session)
    (within : ∀ active, session.record.inForce = .ok active →
      ∀ validator ∈ active, validator.StaysWithin type.schema)
    (apart : session.record.IsLeftAlone) (names clears : Value) (name : Value)
    (recordType : String) :
    (validate names clears).outcome session ≠ .error (.unknownAttribute name recordType) :=
  fun stopped => faultsIn_validate intact within apart names clears _ stopped

/-- Accounts, with a password to be repeated, a nickname without blanks around it, which has to
differ from the mail address if there is one, and a mail address, for which the nickname stands in.
-/
def membershipType : ModelType where
  name := "Membership"
  schema := ⟨[⟨"password", .text "hunter2", none⟩, ⟨"password_repeat", .null, none⟩,
    ⟨"nick", .text " bunny ", none⟩, ⟨"mail", .null, some "Mail address"⟩], by decide⟩
  rules := [
    .list [.text "nick", .text "filter", .map [(.text "filter", .script .strip)]],
    .list [.text "mail", .text "default", .map [(.text "value", .script (.defaultOf "nick"))]],
    .list [.text "!password", .text "compare"],
    .list [.text "nick", .text "compare", .map [(.text "compare_attribute", .text "mail"),
      (.text "operator", .text "!="), (.text "when", .script (.guardValue "mail"))]]]
  formName := .null
  tracesUnsafe := .bool false
  labels := none
  scenarios := none
  before := some ⟨[.note "checking"], .bool true⟩
  after := none
  methods := .empty

/-- The validators that the rules of accounts compile to. -/
def membershipValidators : List Validator := [
  { Validator.marking [.text "nick"] [] [] with
    skipOnError := .bool false, skipOnEmpty := .bool false
    check := .filter (.script .strip) (.bool false) },
  { Validator.marking [.text "mail"] [] [] with
    skipOnError := .bool false, skipOnEmpty := .bool false
    check := .default (.script (.defaultOf "nick")) },
  { Validator.marking [.text "!password"] [] [] with
    check := .compare .null .null .equal .string },
  { Validator.marking [.text "nick"] [] [] with
    guard := .script (.guardValue "mail")
    check := .compare (.text "mail") .null .unequal .string }]

/-- The rules of memberships stay within the declared attributes: what they cover, compare, read in
a guard and fill in is declared. A pass that is asked to check the password, the nickname, the mail
address and two names that are no attributes gives an answer: the password is not repeated, and once
the nickname has been filtered and filled in as mail address it is the same as that. -/
theorem declared_rules_never_unknown_membership :
    let session := (fresh membershipType (.text "default")).session
    let names := Value.list [.text "password", .text "ghost", .text "mail", .int 7, .text "nick"]
    session.record.inForce = .ok membershipValidators ∧
      (∀ validator ∈ membershipValidators, validator.StaysWithin membershipType.schema) ∧
      session.record.IsLeftAlone ∧
      (∀ name recordType, (validate names (.bool true)).outcome session ≠
        .error (.unknownAttribute name recordType)) ∧
      ((validate names (.bool true)).outcome session).toOption = some false ∧
      ((validate names (.bool true)).final session).errors.all.map
        (fun entry => (entry.1.toText, entry.2.map Value.toText)) = [
          ("password", ["Password must be equal to \"Password Repeat\"."]),
          ("nick", ["Nick must not be equal to \"Mail address\"."])] := by
  intro session names
  have inForce : session.record.inForce = .ok membershipValidators := rfl
  have within : ∀ validator ∈ membershipValidators,
      validator.StaysWithin membershipType.schema := by decide
  have apart : session.record.IsLeftAlone := by
    intro hook present
    simp only [session, Model.session, fresh, List.cons_append, List.nil_append,
      List.mem_cons, List.not_mem_nil, or_false] at present
    rcases present with rfl | rfl <;> decide
  have never := declared_rules_never_unknown (intact_fresh membershipType (.text "default"))
    (fun active isActive => by
      cases inForce.symm.trans isActive
      exact within) apart names (.bool true)
  exact ⟨inForce, within, apart, never, by decide +kernel, by decide +kernel⟩

/-- Without a name to compare with, a nickname is compared with an attribute nobody declared. -/
example : ¬({ Validator.marking [.text "nick"] [] [] with
    check := .compare .null .null .equal .string }).StaysWithin membershipType.schema := by
  decide

end Model

end RecordValidation
