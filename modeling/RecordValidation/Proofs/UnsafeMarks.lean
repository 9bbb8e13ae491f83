import RecordValidation.Proofs.MassAssignment

/-!
# What an unsafe mark is worth

A mark before an attribute says that the attribute is active but unsafe. It says so of the
descriptor it stands in, and no other descriptor is looked at: an attribute that is also listed
without the mark by a validator active in the same scenario is safe there after all. `MarkUndone` is
exactly when that happens, and `marked_exact` says that a marked attribute is kept out of the safe
ones, and out of the reach of safe assignments, exactly if it does not.
-/

namespace RecordValidation

namespace Resolution

/-- A validator active in a scenario lists an attribute with the mark. -/
def Marked (validators : List Validator) (scenario : Value) (name : String) : Prop :=
  ∃ validator ∈ validators, validator.appliesTo scenario = true ∧
    .text ("!" ++ name) ∈ validator.attributes

/-- The mark of an attribute is undone in a scenario: the scenario is the default one or is
mentioned, and of the validators active there one lists the attribute with the mark and one without,
where it does not itself read like a marked one. -/
def MarkUndone (default : Value) (validators : List Validator) (scenario : Value) (name : String) :
    Prop :=
  Descriptor.isUnsafe name = false ∧
    ((scenario == default) = true ∨ Mentioned validators scenario) ∧
    Marked validators scenario name ∧
    ∃ validator ∈ validators, validator.appliesTo scenario = true ∧
      .text name ∈ validator.attributes

instance (validators : List Validator) (scenario : Value) (name : String) :
    Decidable (Marked validators scenario name) :=
  decidable_of_iff (∃ validator ∈ validators, validator.appliesTo scenario = true ∧
      validator.attributes.contains (.text ("!" ++ name)) = true) (by
    simp only [Marked, Value.contains_text])

/-- A marked attribute is safe exactly if its mark is undone. -/
theorem mem_safeAttributes_of_marked {default : Value} {validators : List Validator}
    {scenario : Value} {name : String} (marked : Marked validators scenario name) :
    name ∈ safeAttributes default validators scenario ↔
      MarkUndone default validators scenario name := by
  rw [mem_safeAttributes]
  constructor
  · rintro ⟨noMark, reachable, listed⟩
    exact ⟨noMark, reachable, marked, listed⟩
  · rintro ⟨noMark, reachable, -, listed⟩
    exact ⟨noMark, reachable, listed⟩

/-- A marked attribute may be assigned exactly if its mark is undone. -/
theorem mayAssign_of_marked {default : Value} {validators : List Validator} {scenario : Value}
    {name : String} (marked : Marked validators scenario name) :
    MayAssign default validators scenario (.text name) ↔
      MarkUndone default validators scenario name :=
  mayAssign_text.trans (mem_safeAttributes_of_marked marked)

instance (default : Value) (validators : List Validator) (scenario : Value) (name : String) :
    Decidable (MarkUndone default validators scenario name) :=
  decidable_of_iff (Marked validators scenario name ∧
      MayAssign default validators scenario (.text name)) (by
    constructor
    · rintro ⟨marked, may⟩
      exact (mayAssign_of_marked marked).1 may
    · intro undone
      exact ⟨undone.2.2.1, (mayAssign_of_marked undone.2.2.1).2 undone⟩)

end Resolution

open Resolution

/-- What an unsafe mark is worth.

The scenarios of some validators can be told, and a marked attribute is kept out of the safe ones of
a scenario exactly if its mark is not undone there. A safe assignment to a model in that scenario
leaves a marked attribute as it is if its mark is not undone, whatever the values; if it is undone,
the assignment writes the attribute like any safe one.

Proof: what is safe are the descriptors without a mark, so a marked attribute is safe only through
another descriptor of it. What safe assignments may write are the safe attributes. -/
theorem marked_exact {default scenario : Value} {validators : List Validator} {name : String}
    (defaultNamed : default.IsName) (scenarioNamed : scenario.IsName)
    (named : ∀ validator ∈ validators, validator.WellNamed)
    (marked : Marked validators scenario name) :
    (∃ resolved safe, resolve default validators = .ok resolved ∧
      resolved.safeAttributes scenario = .ok safe ∧
      (name ∉ safe ↔ ¬ MarkUndone default validators scenario name)) ∧
    ∀ (session : Session Model) (entries : List (Value × Value)) (safeOnly : Value),
      default = ScenarioMap.defaultScenario → session.record.scenario = scenario →
      safeOnly.truthy = true → session.record.FollowsSchema →
      session.record.AssignsSafely validators →
      entries.Pairwise (fun a b => (a.1 == b.1) = false) →
      ∃ after, (Model.setAttributes (.map entries) safeOnly).run session = .ok () after ∧
        (¬ MarkUndone default validators scenario name →
          after.record.read (.text name) = session.record.read (.text name)) ∧
        (MarkUndone default validators scenario name →
          ∀ value, (.text name, value) ∈ entries → after.record.read (.text name) = .ok value) := by
  constructor
  · refine ⟨scenarioMap default validators, safeAttributes default validators scenario,
      resolve_of_nameable defaultNamed fun validator present => (named validator present).nameable,
      safeAttributes_scenarioMap scenarioNamed named, ?_⟩
    exact not_congr (mem_safeAttributes_of_marked marked)
  · rintro session entries safeOnly rfl rfl safe follows safely distinct
    obtain ⟨cache, record⟩ := Model.record_keeping validators session
    have may : MayAssign ScenarioMap.defaultScenario validators session.record.scenario
        (.text name) ↔
          MarkUndone ScenarioMap.defaultScenario validators session.record.scenario name :=
      mayAssign_of_marked marked
    refine ⟨_, Model.run_setAttributes_safe safe follows safely entries, ?_, ?_⟩
    · intro notUndone
      refine (Model.read_assigned_of_unwritten distinct fun entry present permitted => ?_).trans
        (Model.read_congr (by rw [record]) (by rw [record]))
      rw [Bool.eq_false_iff]
      intro same
      rw [(Value.text_beq_iff name entry.1).1 same] at permitted
      exact notUndone (may.1 (of_decide_eq_true permitted))
    · intro undone value present
      exact Model.read_assigned_of_mem distinct present (Value.isName_text name)
        (decide_eq_true (may.2 undone))

/-- The mark on the role of an account keeps a safe assignment from writing it, except in `review`,
where another rule lists the role without the mark. -/
theorem marked_exact_account :
    let form : List (Value × Value) := [(.text "role", .text "admin")]
    (∃ after, (Model.setAttributes (.map form) (.bool true)).run
        (Model.newAccount (.text "default")).session = .ok () after ∧
      after.record.read (.text "role") = .ok (.text "guest")) ∧
    ∃ after, (Model.setAttributes (.map form) (.bool true)).run
        (Model.newAccount (.text "review")).session = .ok () after ∧
      after.record.read (.text "role") = .ok (.text "admin") := by
  intro form
  have named : ∀ validator ∈ Model.accountValidators, validator.WellNamed := by decide
  have unlike : form.Pairwise fun a b => (a.1 == b.1) = false := by decide
  have follows (scenario : Value) : (Model.newAccount scenario).FollowsSchema :=
    Model.followsSchema_fresh Model.accountType scenario
  have assigned (scenario : Value) (scenarioNamed : scenario.IsName)
      (marked : Marked Model.accountValidators scenario "role") :=
    (marked_exact (Value.isName_text _) scenarioNamed named marked).2
      (Model.newAccount scenario).session form (.bool true) rfl rfl rfl (follows scenario)
      (Model.assignsSafely_newAccount scenarioNamed) unlike
  constructor
  · obtain ⟨after, assigns, kept, -⟩ := assigned (.text "default") rfl (by decide)
    exact ⟨after, assigns, (kept (by decide)).trans rfl⟩
  · obtain ⟨after, assigns, -, written⟩ := assigned (.text "review") rfl (by decide)
    exact ⟨after, assigns, written (by decide) _ (by simp [form])⟩

/-- A rule marks the role and another one lists it plainly: although a validator active in the
default scenario carries the mark, the role is safe there. -/
theorem safe_despite_mark :
    let validators :=
      [Validator.marking [.text "!role"] [] [], Validator.marking [.text "role"] [] []]
    Marked validators (.text "default") "role" ∧
      ∃ resolved, resolve (.text "default") validators = .ok resolved ∧
        resolved.safeAttributes (.text "default") = .ok ["role"] := by
  intro validators
  exact ⟨by decide, _, rfl, rfl⟩

end RecordValidation
