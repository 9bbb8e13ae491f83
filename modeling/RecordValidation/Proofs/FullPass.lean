import RecordValidation.Pass
import RecordValidation.Proofs.Runs
import RecordValidation.Proofs.ScenarioViews
import RecordValidation.Proofs.ValidatorFaults

/-!
# A full pass misses no check

A pass that is given no names checks the active attributes of its scenario, and two filters stand
between them and the checks: a validator runs only if it covers one of the names, and only on those
of its attributes that are among them. `runActive_eq` says that neither takes anything away: what
runs is every validator active in the scenario, on all its attributes.

The names come from the descriptors of the scenario map with their marks taken off, and each
validator takes the marks off its own. Both start from the same descriptors, because a validator
that is active in a known scenario is among those whose descriptors the scenario has.
-/

namespace RecordValidation

namespace ValidatorOf

/-- The attributes of a validator whose descriptors are texts. -/
def attributeNames (validator : Validator) : List String :=
  (Descriptor.texts validator.attributes).map Descriptor.name

/-- A validator without a request covers all its attributes. -/
theorem coveredBy_null {validator : Validator} (named : validator.WellNamed) :
    validator.coveredBy .null = .ok validator.attributeNames := by
  simp only [coveredBy, covered, ownNames, Descriptor.names_of_texts named.descriptors]
  rfl

/-- A validator asked about texts covers those of its attributes that are among them. The names
requested can be names because they are texts, and a text is among them exactly if it is equal to
one. -/
theorem coveredBy_texts {validator : Validator} (named : validator.WellNamed)
    (requested : List String) :
    validator.coveredBy (.list (requested.map .text)) =
      .ok (validator.attributeNames.filter requested.contains) := by
  have among : ∀ name : String,
      (requested.map Value.text).contains (.text name) = requested.contains name := by
    intro name
    rw [List.contains_map]
    simp only [Value.text_beq_text, List.any_beq]
  simp only [coveredBy, covered, ownNames, Descriptor.names_of_texts named.descriptors,
    Value.items, Value.items?, bind, Except.bind, Value.asNames_texts, among]
  rfl

/-- Asked about names that hold all its attributes, a validator covers all of them. -/
theorem coveredBy_of_subset {validator : Validator} (named : validator.WellNamed)
    {requested : List String} (held : ∀ name ∈ validator.attributeNames, name ∈ requested) :
    validator.coveredBy (.list (requested.map .text)) = validator.coveredBy .null := by
  rw [coveredBy_texts named, coveredBy_null named, List.filter_eq_self.2]
  intro name own
  exact List.contains_iff_mem.2 (held name own)

variable {ρ : Type}

/-- Run on names that hold all its attributes, a validator runs as if no names were given. -/
theorem runOn_of_subset (host : Host ρ) {validator : Validator} (named : validator.WellNamed)
    {requested : List String} (held : ∀ name ∈ validator.attributeNames, name ∈ requested) :
    validator.runOn host (.list (requested.map .text)) = validator.runOn host .null := by
  simp only [runOn, coveredBy_of_subset named held]

/-- A validator without attributes does nothing. It covers nothing, so that neither the checks one
by one nor a check of the whole is made. -/
theorem runOn_null_of_no_attributes (host : Host ρ) {validator : Validator}
    (named : validator.WellNamed) (none : validator.attributeNames = []) :
    validator.runOn host .null = pure () := by
  simp only [runOn, coveredBy_null named, none, Act.ofOutcome_ok, pure_bind, run]
  split <;> rfl

/-- Asked about names that hold all its attributes, a validator is active wherever it applies if it
has an attribute. Where it does not apply it is not asked what it covers, so its attributes need to
be among the names only where it does. -/
theorem isActive_of_subset {validator : Validator} (named : validator.WellNamed) (scenario : Value)
    {requested : List String}
    (held : validator.appliesTo scenario = true →
      ∀ name ∈ validator.attributeNames, name ∈ requested) :
    validator.isActive scenario (.list (requested.map .text)) =
      .ok (validator.appliesTo scenario && !validator.attributeNames.isEmpty) := by
  unfold isActive
  cases applies : validator.appliesTo scenario with
  | false => rfl
  | true =>
    simp only [↓reduceIte, coveredBy_of_subset named (held applies), coveredBy_null named]
    rfl

end ValidatorOf

/-- If each validator can tell whether it is active, the active ones are those that are. They are
asked one after the other, and none of them stops the asking. -/
theorem activeValidators_eq_filter {scenario names : Value} {validators : List Validator}
    (test : Validator → Bool)
    (tells : ∀ validator ∈ validators, validator.isActive scenario names = .ok (test validator)) :
    activeValidators scenario names validators = .ok (validators.filter test) := by
  induction validators with
  | nil => rfl
  | cons validator rest inductionHypothesis =>
    have others := inductionHypothesis fun other later => tells other (List.mem_cons_of_mem _ later)
    simp only [activeValidators, tells validator (by simp), others, bind, Except.bind, pure,
      Except.pure, List.filter_cons]

namespace Resolution

/-- The attributes of a validator are among those checked in the scenarios it is active in. Each
comes from a descriptor that the validator lists, which is an active descriptor of the scenario, and
both take off the mark in the same way. -/
theorem attributeNames_subset {validators : List Validator} {scenario : Value}
    {validator : Validator} (present : validator ∈ validators)
    (active : validator.appliesTo scenario = true) :
    ∀ name ∈ validator.attributeNames, name ∈ activeNames validators scenario := by
  intro name own
  obtain ⟨descriptor, listed, rfl⟩ := List.mem_map.1 own
  apply List.mem_map_of_mem
  rw [Descriptor.mem_texts] at listed ⊢
  exact text_mem_activeDescriptors.2 ⟨validator, present, active, listed⟩

end Resolution

namespace Pass

variable {ρ : Type}

/-- Run every validator that is active in a scenario on all its attributes, in order. -/
def runApplicable (host : Host ρ) (scenario : Value) (validators : List Validator) : Act ρ Unit :=
  (validators.filter (·.appliesTo scenario)).forM fun validator => validator.runOn host .null

/-- On the active attributes of a scenario, the validators that run are those active in it, each on
all its attributes.

Proof: a validator that is active covers only active attributes, so the names take none of them
away. The filter then leaves out only validators that have no attribute, and those do nothing. -/
theorem runActive_eq (host : Host ρ) (scenario : Value) {validators : List Validator}
    (named : ∀ validator ∈ validators, validator.WellNamed) :
    runActive host scenario ((Resolution.activeNames validators scenario).map .text) validators =
      runApplicable host scenario validators := by
  have chosen := activeValidators_eq_filter _ fun validator present =>
    (validator.isActive_of_subset (named validator present) scenario
      (Resolution.attributeNames_subset present))
  have stages : (validators.filter fun validator =>
      validator.appliesTo scenario && !validator.attributeNames.isEmpty) =
      (validators.filter (·.appliesTo scenario)).filter fun validator =>
        !validator.attributeNames.isEmpty := by
    rw [List.filter_filter]
    congr 1
    funext validator
    rw [Bool.and_comm]
  have whole : ∀ validator ∈ validators.filter (·.appliesTo scenario),
      validator.runOn host (.list ((Resolution.activeNames validators scenario).map .text)) =
        validator.runOn host .null := by
    intro validator kept
    obtain ⟨present, active⟩ := List.mem_filter.1 kept
    exact validator.runOn_of_subset host (named validator present)
      (Resolution.attributeNames_subset present active)
  have idle : ∀ validator ∈ validators.filter (·.appliesTo scenario),
      (!validator.attributeNames.isEmpty) = false → validator.runOn host .null = pure () := by
    intro validator kept bare
    exact validator.runOn_null_of_no_attributes host
      (named validator (List.mem_filter.1 kept).1) (by simpa using bare)
  rw [runActive, chosen, Act.ofOutcome_ok, pure_bind, Act.forIn_eq_forM, stages,
    Act.forM_congr fun validator kept => whole validator (List.mem_filter.1 kept).1,
    Act.forM_filter _ _ _ idle]
  rfl

/-- A pass over all active attributes, where the scenarios are those of the validators and nobody
observes it. -/
def full (default scenario : Value) (validators : List Validator) (clears : Bool) : Pass ρ where
  scenario
  names := .null
  clears
  before := []
  after := []
  scenarioMap := Act.ofOutcome (resolve default validators)
  validators := return validators

/-- The session a pass starts with: without errors if it clears them. -/
def start (clears : Bool) (session : Session ρ) : Session ρ :=
  { session with errors := if clears then .empty else session.errors }

/-- Without observers, a pass clears the errors if it is to, checks the record and, unless that
stops, reports how many attributes failed and answers whether none did. Clearing comes first and is
not undone, so the session that the checks start in is the one that is cleared, or the given one. -/
theorem run_of_unobserved (host : Host ρ) (pass : Pass ρ) (unobserved : pass.before = [])
    (session : Session ρ) :
    (pass.run host).run session =
      match (pass.checkRecord host).run (start pass.clears session) with
      | .ok () after => .ok after.errors.isEmpty { after with
          events := after.events ++ [.validated host.typeName pass.scenario after.errors.size] }
      | .error fault after => .error fault after := by
  have checked : ∀ begun : Session ρ,
      ((do
        pass.checkRecord host
        let errors ← Act.errors
        Act.observe (.validated host.typeName pass.scenario errors.size)
        return errors.isEmpty) : Act ρ Bool).run begun =
      match (pass.checkRecord host).run begun with
      | .ok () after => .ok after.errors.isEmpty { after with
          events := after.events ++ [.validated host.typeName pass.scenario after.errors.size] }
      | .error fault after => .error fault after := by
    intro begun
    rw [EStateM.run_bind]
    cases (pass.checkRecord host).run begun with
    | ok result after => rfl
    | error fault after => rfl
  unfold run
  rw [unobserved]
  cases pass.clears with
  | false => exact checked session
  | true => exact checked { session with errors := .empty }

section

variable (host : Host ρ) {default scenario : Value} {validators : List Validator} (clears : Bool)
  (defaultNamed : default.IsName) (scenarioNamed : scenario.IsName)
  (named : ∀ validator ∈ validators, validator.WellNamed)

include defaultNamed named in
/-- The scenarios of a full pass are those of its validators. -/
theorem scenarioMap_full : (full (ρ := ρ) default scenario validators clears).scenarioMap =
    pure (Resolution.scenarioMap default validators) := by
  rw [full, resolve_of_nameable defaultNamed fun validator present =>
    (named validator present).nameable, Act.ofOutcome_ok]

include defaultNamed scenarioNamed named

/-- In a known scenario a full pass runs every validator active there on all its attributes. The
scenario is declared, the names that are checked are its active attributes, and these hold all
attributes of each validator active there, so that neither filter drops anything. -/
theorem checkRecord_full_of_known (known : Resolution.Known default validators scenario) :
    (full default scenario validators clears).checkRecord host =
      runApplicable host scenario validators := by
  have declared : (Resolution.scenarioMap default validators).declares scenario = .ok true := by
    rw [Resolution.declares_scenarioMap default validators scenarioNamed, decide_eq_true known]
  have checked : (full (ρ := ρ) default scenario validators clears).checkedNames
      (Resolution.scenarioMap default validators) =
        .ok ((Resolution.activeNames validators scenario).map .text) := by
    simp only [checkedNames, full,
      Resolution.activeAttributes_scenarioMap scenarioNamed named known]
    rfl
  rw [checkRecord, scenarioMap_full clears defaultNamed named, pure_bind, checked]
  simp only [full, declared, Act.ofOutcome_ok, pure_bind, Bool.not_true, Bool.false_eq_true,
    ↓reduceIte, runActive_eq host scenario named, List.forIn_nil, bind_pure_unit]

/-- In a scenario that is not known a full pass runs nothing and stops. The map resolves and does
not declare the scenario, which is found out before any validator is selected. -/
theorem checkRecord_full_of_not_known (unknown : ¬ Resolution.Known default validators scenario) :
    (full default scenario validators clears).checkRecord host =
      throw (.unknownScenario scenario (Resolution.scenarioMap default validators).names) := by
  have refused : (Resolution.scenarioMap default validators).declares scenario = .ok false := by
    rw [Resolution.declares_scenarioMap default validators scenarioNamed, decide_eq_false unknown]
  rw [checkRecord, scenarioMap_full clears defaultNamed named, pure_bind]
  simp only [full, refused, Act.ofOutcome_ok, pure_bind, Bool.not_false, ↓reduceIte]
  rfl

/-- A full pass in a scenario that is not known refuses the scenario, with the errors cleared or as
they were. -/
theorem run_full_of_not_known (unknown : ¬ Resolution.Known default validators scenario)
    (session : Session ρ) :
    ((full default scenario validators clears).run host).run session =
      .error (.unknownScenario scenario (Resolution.scenarioMap default validators).names)
        (start clears session) := by
  rw [run_of_unobserved host (full default scenario validators clears) rfl session,
    checkRecord_full_of_not_known host clears defaultNamed scenarioNamed named unknown]
  rfl

/-- A full pass in a known scenario ends as running every validator active there ends. -/
theorem run_full_of_known (known : Resolution.Known default validators scenario)
    (session : Session ρ) :
    ((full default scenario validators clears).run host).run session =
      match (runApplicable host scenario validators).run (start clears session) with
      | .ok () after => .ok after.errors.isEmpty { after with
          events := after.events ++ [.validated host.typeName scenario after.errors.size] }
      | .error fault after => .error fault after := by
  rw [run_of_unobserved host (full default scenario validators clears) rfl session,
    checkRecord_full_of_known host clears defaultNamed scenarioNamed named known]
  rfl

end

/-- The validators active in a scenario stop only with what the record stops with. -/
theorem faultsIn_runApplicable {host : Host ρ} {allowed : Fault → Prop}
    (offers : host.FaultsIn allowed) (scenario : Value) (validators : List Validator) :
    Act.FaultsIn allowed (runApplicable host scenario validators) :=
  Act.faultsIn_forM _ fun validator _ => validator.faultsIn_runOn offers .null

/-- A full pass misses no check.

In a scenario that is not known it runs nothing and refuses the scenario, with the errors cleared or
as they were. In a known scenario, what becomes of the record and its errors and what stops the pass
is what becomes of them and what stops it when every validator active there runs on all its
attributes, in order; the pass adds the report that it is done, and its answer is whether there are
no errors. If the record itself never refuses a scenario, as a plain record never does, the pass
refuses exactly those that are not known.

Proof: the scenarios of the pass are those of its validators, so what it checks are the attributes
of the validators active in its scenario, and `runActive_eq` says that these take no validator and
no attribute away. Whatever such a run stops with is a fault of the record or of looking at values.
-/
theorem full_run_exact (host : Host ρ) (default scenario : Value) (validators : List Validator)
    (clears : Bool) (session : Session ρ) (defaultNamed : default.IsName)
    (scenarioNamed : scenario.IsName) (named : ∀ validator ∈ validators, validator.WellNamed) :
    (¬ Resolution.Known default validators scenario →
      ((full default scenario validators clears).run host).run session =
        .error (.unknownScenario scenario (Resolution.scenarioMap default validators).names)
          (start clears session)) ∧
    (Resolution.Known default validators scenario →
      ((full default scenario validators clears).run host).run session =
        match (runApplicable host scenario validators).run (start clears session) with
        | .ok () after => .ok after.errors.isEmpty { after with
            events := after.events ++ [.validated host.typeName scenario after.errors.size] }
        | .error fault after => .error fault after) ∧
    (host.FaultsIn (fun fault => ∀ refused known, fault ≠ .unknownScenario refused known) →
      ((∃ refused known after, ((full default scenario validators clears).run host).run session =
          .error (.unknownScenario refused known) after) ↔
        ¬ Resolution.Known default validators scenario)) := by
  have unknownRun (unknown : ¬ Resolution.Known default validators scenario) :=
    run_full_of_not_known host clears defaultNamed scenarioNamed named unknown session
  have knownRun (known : Resolution.Known default validators scenario) :=
    run_full_of_known host clears defaultNamed scenarioNamed named known session
  refine ⟨unknownRun, knownRun, fun offers => ⟨?_, fun unknown => ⟨_, _, _, unknownRun unknown⟩⟩⟩
  rintro ⟨refused, known, after, stopped⟩ isKnown
  rw [knownRun isKnown] at stopped
  cases ran : (runApplicable host scenario validators).run (start clears session) with
  | ok result final =>
    rw [ran] at stopped
    cases stopped
  | error fault final =>
    rw [ran] at stopped
    cases stopped
    exact faultsIn_runApplicable offers scenario validators _ _ _ ran refused known rfl

/-- The sign-up form with a check that always complains in place of each mark. -/
def strictSignUp : List Validator := signUpValidators.map ({ · with check := .alwaysFails })

/-- Where every check complains, the sign-up form refuses `closed`, which is only excluded. In
`review` it complains once about the name, which two validators cover, and about the role, which is
covered with the mark and without. -/
theorem full_run_exact_signUp :
    let record : PlainRecord :=
      { values := ⟨[(.text "name", .text "Ada"), (.text "role", .text "admin")]⟩, labels := none }
    let session : Session PlainRecord := { record, errors := .empty, events := [] }
    let passIn (scenario : Value) := full (.text "default") scenario strictSignUp true
    ((passIn (.text "closed")).run record.host).run session =
        .error (.unknownScenario (.text "closed")
          [.text "default", .text "review", .text "import"]) session ∧
      ((passIn (.text "review")).run record.host).run session = .ok false {
        record
        errors := ⟨⟨[(.text "name", [.text "nope"]), (.text "role", [.text "nope"])]⟩⟩
        events := [.validated "PlainRecord" (.text "review") 2] } ∧
      ¬ ∃ refused known after, ((passIn (.text "review")).run record.host).run session =
        .error (.unknownScenario refused known) after := by
  intro record session passIn
  have named : ∀ validator ∈ strictSignUp, validator.WellNamed := by decide
  have offers : record.host.FaultsIn fun fault =>
      ∀ refused known, fault ≠ .unknownScenario refused known := by
    refine record.faultsIn_host.mono ?_
    rintro fault held refused known rfl
    exact held
  obtain ⟨refuses, -, -⟩ := full_run_exact record.host (.text "default") (.text "closed")
    strictSignUp true session rfl rfl named
  obtain ⟨-, runs, refusesExactly⟩ := full_run_exact record.host (.text "default") (.text "review")
    strictSignUp true session rfl rfl named
  refine ⟨refuses (by decide), (runs (by decide)).trans rfl, ?_⟩
  rw [refusesExactly offers]
  decide

end Pass

end RecordValidation
