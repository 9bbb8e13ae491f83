import RecordValidation.Pass
import RecordValidation.Proofs.Effects
import RecordValidation.Proofs.ScenarioViews

/-!
# Scenarios do not see each other's validators

A validator that is not active in a scenario may bring scenarios of its own, stand anywhere among
the others and even name the scenario it is not active in. `scenario_isolated` says that the
scenario has nothing of it: the same descriptors, and the same passes.

A validator has a say in a scenario where descriptors are collected, where names are mentioned and
scenarios without descriptors dropped, and where a pass chooses which validators run. In each place
it is told apart from the others by whether it is active there; that it may make a scenario known
which was not is no matter for one that is known already.
-/

namespace RecordValidation

variable {default scenario : Value} {before after : List Validator} {inserted : Validator}

namespace Resolution

/-- A validator that is not active in a scenario adds no descriptor to it. -/
theorem activeDescriptors_insert (elsewhere : inserted.appliesTo scenario = false) :
    activeDescriptors (before ++ inserted :: after) scenario =
      activeDescriptors (before ++ after) scenario := by
  have chosen : (before ++ inserted :: after).filter (·.appliesTo scenario) =
      (before ++ after).filter (·.appliesTo scenario) := by
    rw [List.filter_append, List.filter_append, List.filter_cons, elsewhere,
      if_neg Bool.false_ne_true]
  rw [activeDescriptors, activeDescriptors, chosen]

/-- The validators there are stay among them if one is inserted. -/
theorem subset_insert (before after : List Validator) (inserted : Validator) :
    before ++ after ⊆ before ++ inserted :: after :=
  ((List.sublist_cons_self inserted after).append_left before).subset

/-- A scenario that is known stays known if a validator is inserted. -/
theorem Known.insert (known : Known default (before ++ after) scenario) :
    Known default (before ++ inserted :: after) scenario := by
  have kept := subset_insert before after inserted
  obtain isDefault | ⟨⟨mentions, present, mentioned⟩, ⟨populates, among, populated⟩⟩ := known
  · exact .inl isDefault
  · exact .inr ⟨⟨mentions, kept present, mentioned⟩, ⟨populates, kept among, populated⟩⟩

end Resolution

/-- A validator that is not active in a scenario is not chosen for a pass there. Whether it covers a
name is not even asked of it, so it cannot be what stops the choice. -/
theorem activeValidators_insert (names : Value) (elsewhere : inserted.appliesTo scenario = false) :
    activeValidators scenario names (before ++ inserted :: after) =
      activeValidators scenario names (before ++ after) := by
  induction before with
  | nil =>
    have inactive : inserted.isActive scenario names = .ok false := by
      unfold ValidatorOf.isActive
      rw [elsewhere, if_neg Bool.false_ne_true]
    simp only [List.nil_append, activeValidators, inactive]
    cases activeValidators scenario names after <;> rfl
  | cons validator rest inductionHypothesis =>
    simp only [List.cons_append, activeValidators, inductionHypothesis]

namespace Pass

variable {ρ : Type}

/-- The pass with other validators. -/
def withValidators (validators : List Validator) (pass : Pass ρ) : Pass ρ :=
  { pass with validators := return validators }

/-- The pass with other validators, the scenarios of which are its scenarios. -/
def resolving (default : Value) (validators : List Validator) (pass : Pass ρ) : Pass ρ :=
  { pass.withValidators validators with scenarioMap := Act.ofOutcome (resolve default validators) }

/-- A validator that is not active in a scenario changes nothing that runs there. -/
theorem runActive_insert (host : Host ρ) (names : List Value)
    (elsewhere : inserted.appliesTo scenario = false) :
    runActive host scenario names (before ++ inserted :: after) =
      runActive host scenario names (before ++ after) := by
  rw [runActive, runActive, activeValidators_insert _ elsewhere]

/-- In a pass whose scenarios are given, a validator that is not active in its scenario changes
nothing. The list of validators is used in one place only, where those that run are chosen. -/
theorem run_insert (host : Host ρ) (pass : Pass ρ)
    (elsewhere : inserted.appliesTo pass.scenario = false) :
    (pass.withValidators (before ++ inserted :: after)).run host =
      (pass.withValidators (before ++ after)).run host := by
  have checks : (pass.withValidators (before ++ inserted :: after)).checkRecord host =
      (pass.withValidators (before ++ after)).checkRecord host := by
    unfold checkRecord
    simp only [withValidators, pure_bind, runActive_insert host _ elsewhere]
    rfl
  unfold run
  rw [checks]
  rfl

/-- In a pass that works out its scenarios from its validators, and whose scenario is one of them, a
validator that is not active there changes nothing. The two maps may differ elsewhere, so that they
agree on this scenario is stated in the premises: both declare it, with the same active
attributes. -/
theorem run_resolving_insert (host : Host ρ) (pass : Pass ρ) {known more : ScenarioMap}
    (elsewhere : inserted.appliesTo pass.scenario = false)
    (resolved : resolve default (before ++ after) = .ok known)
    (resolvedMore : resolve default (before ++ inserted :: after) = .ok more)
    (declared : known.declares pass.scenario = .ok true)
    (declaredMore : more.declares pass.scenario = .ok true)
    (active : more.activeAttributes pass.scenario = known.activeAttributes pass.scenario) :
    (pass.resolving default (before ++ inserted :: after)).run host =
      (pass.resolving default (before ++ after)).run host := by
  have checked : (pass.resolving default (before ++ inserted :: after)).checkedNames more =
      (pass.resolving default (before ++ after)).checkedNames known := by
    simp only [checkedNames, resolving, withValidators, active]
  have checks : (pass.resolving default (before ++ inserted :: after)).checkRecord host =
      (pass.resolving default (before ++ after)).checkRecord host := by
    unfold checkRecord
    simp only [resolving, withValidators, resolved, resolvedMore, Act.ofOutcome_ok, pure_bind,
      declared, declaredMore, Bool.not_true, Bool.false_eq_true, ↓reduceIte,
      runActive_insert host _ elsewhere] at checked ⊢
    rw [checked]
  unfold run
  rw [checks]
  rfl

end Pass

/-- A scenario that a map declares can be a name. -/
theorem ScenarioMap.isName_of_declares {scenarios : ScenarioMap}
    (declared : scenarios.declares scenario = .ok true) : scenario.IsName := by
  obtain ⟨name, taken, -⟩ := Outcome.bind_eq_ok_iff.1 declared
  exact (Value.isName_of_asName taken).2

/-- Scenarios do not see each other's validators.

Take validators all of whose names can be names, and a scenario of theirs. A validator that is not
active in the scenario may be inserted anywhere: the scenarios still resolve, the scenario is still
declared, with the same descriptors, the same active and the same safe attributes; and every pass in
the scenario, on whatever record and with whatever observers, does exactly what it does without that
validator, whether it is given its scenarios or works them out from the validators.

Proof: the scenario stays known, and its descriptors are those of the validators active in it, of
which the inserted one is none. So a pass finds its scenario declared in either map, checks the same
names and chooses the same validators. -/
theorem scenario_isolated (default scenario : Value) (before after : List Validator)
    (inserted : Validator) (known : ScenarioMap) (defaultNamed : default.IsName)
    (named : ∀ validator ∈ before ++ inserted :: after, validator.Nameable)
    (resolved : resolve default (before ++ after) = .ok known)
    (declared : known.declares scenario = .ok true)
    (elsewhere : inserted.appliesTo scenario = false) :
    (∃ more, resolve default (before ++ inserted :: after) = .ok more ∧
      more.declares scenario = .ok true ∧
      more.descriptors scenario = known.descriptors scenario ∧
      more.activeAttributes scenario = known.activeAttributes scenario ∧
      more.safeAttributes scenario = known.safeAttributes scenario) ∧
    ∀ {ρ : Type} (host : Host ρ) (pass : Pass ρ), pass.scenario = scenario →
      (pass.withValidators (before ++ inserted :: after)).run host =
          (pass.withValidators (before ++ after)).run host ∧
        (pass.resolving default (before ++ inserted :: after)).run host =
          (pass.resolving default (before ++ after)).run host := by
  have scenarioNamed := ScenarioMap.isName_of_declares declared
  have resolvedMore := resolve_of_nameable defaultNamed named
  obtain rfl : Resolution.scenarioMap default (before ++ after) = known := by
    have fewer := resolve_of_nameable defaultNamed fun validator present =>
      named validator (Resolution.subset_insert before after inserted present)
    exact Except.ok.inj (fewer.symm.trans resolved)
  have isKnown : Resolution.Known default (before ++ after) scenario := by
    rw [Resolution.declares_scenarioMap default _ scenarioNamed] at declared
    exact of_decide_eq_true (Except.ok.inj declared)
  have staysKnown : Resolution.Known default (before ++ inserted :: after) scenario :=
    isKnown.insert
  have declaredMore : (Resolution.scenarioMap default (before ++ inserted :: after)).declares
      scenario = .ok true := by
    rw [Resolution.declares_scenarioMap default _ scenarioNamed, decide_eq_true staysKnown]
  have descriptors : (Resolution.scenarioMap default (before ++ inserted :: after)).descriptors
      scenario = (Resolution.scenarioMap default (before ++ after)).descriptors scenario := by
    rw [Resolution.descriptors_scenarioMap staysKnown, Resolution.descriptors_scenarioMap isKnown,
      Resolution.activeDescriptors_insert elsewhere]
  have active : (Resolution.scenarioMap default (before ++ inserted :: after)).activeAttributes
      scenario = (Resolution.scenarioMap default (before ++ after)).activeAttributes scenario := by
    rw [ScenarioMap.activeAttributes, ScenarioMap.activeAttributes,
      Value.asName_of_isName scenarioNamed]
    exact congrArg Descriptor.names descriptors
  have safe : (Resolution.scenarioMap default (before ++ inserted :: after)).safeAttributes
      scenario = (Resolution.scenarioMap default (before ++ after)).safeAttributes scenario := by
    rw [ScenarioMap.safeAttributes, ScenarioMap.safeAttributes,
      Value.asName_of_isName scenarioNamed]
    exact congrArg Descriptor.safeNames descriptors
  refine ⟨⟨_, resolvedMore, declaredMore, descriptors, active, safe⟩, ?_⟩
  rintro ρ host pass rfl
  exact ⟨pass.run_insert host elsewhere, pass.run_resolving_insert host elsewhere resolved
    resolvedMore declared declaredMore active⟩

/-- A validator that complains about everybody's nickname, except in `review` and `audit`. -/
def nicknameRefusal : Validator :=
  { Validator.marking [.text "!nick"] [] [.text "review", .text "audit"] with
    check := .alwaysFails }

/-- A pass in `review` over the role and the nickname, which leaves a note first. -/
def reviewPass : Pass PlainRecord where
  scenario := .text "review"
  names := .list [.text "role", .text "nick"]
  clears := true
  before := [⟨[.note "opened"], .null⟩]
  after := []
  scenarioMap := throw .notOffered
  validators := return []

/-- What a plain record without attributes offers. -/
def emptyHost : Host PlainRecord := PlainRecord.host { values := .empty, labels := none }

/-- Put between the validators of the sign-up form, it gives rise to `closed` and `audit`, scenarios
that the form did not have. In `review`, which it mentions as well, the descriptors stay and a pass
over the role and the nickname ends as it did. -/
theorem scenario_isolated_signUp :
    (∃ more, resolve (.text "default")
        (signUpValidators.take 1 ++ nicknameRefusal :: signUpValidators.drop 1) = .ok more ∧
      more.names =
        [.text "default", .text "closed", .text "review", .text "audit", .text "import"] ∧
      more.descriptors (.text "review") = [.text "name", .text "!role", .text "role"]) ∧
    (reviewPass.resolving (.text "default")
        (signUpValidators.take 1 ++ nicknameRefusal :: signUpValidators.drop 1)).run emptyHost =
      (reviewPass.resolving (.text "default")
        (signUpValidators.take 1 ++ signUpValidators.drop 1)).run emptyHost := by
  have defaultNamed : (Value.text "default").IsName := rfl
  have named : ∀ validator ∈ signUpValidators.take 1 ++ nicknameRefusal ::
      signUpValidators.drop 1, validator.Nameable := by decide
  have resolved : resolve (.text "default") (signUpValidators.take 1 ++ signUpValidators.drop 1) =
      .ok (Resolution.scenarioMap (.text "default") signUpValidators) :=
    resolve_of_nameable defaultNamed (by decide)
  have names : (Resolution.scenarioMap (.text "default")
      (signUpValidators.take 1 ++ nicknameRefusal :: signUpValidators.drop 1)).names =
        [.text "default", .text "closed", .text "review", .text "audit", .text "import"] := rfl
  have review : (Resolution.scenarioMap (.text "default") signUpValidators).descriptors
      (.text "review") = [.text "name", .text "!role", .text "role"] := rfl
  obtain ⟨⟨more, resolves, -, descriptors, -⟩, passes⟩ := scenario_isolated (.text "default")
    (.text "review") (signUpValidators.take 1) (signUpValidators.drop 1) nicknameRefusal _
    defaultNamed named resolved rfl rfl
  refine ⟨⟨more, resolves, ?_, descriptors.trans review⟩, (passes _ reviewPass rfl).2⟩
  rw [← Except.ok.inj ((resolve_of_nameable defaultNamed named).symm.trans resolves)]
  exact names

end RecordValidation
