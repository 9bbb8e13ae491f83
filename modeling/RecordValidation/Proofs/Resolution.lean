import RecordValidation.Proofs.Distinct
import RecordValidation.Proofs.OrderedMaps

/-!
# The scenarios that a list of validators gives rise to

`resolve` fills a bucket for each scenario in two nested loops: over the validators, and for each of
them over the scenarios it goes to. Here the buckets are told apart from the loops.
`activeDescriptors` says what a bucket holds in terms of the scenarios a validator is active in, and
`Known` says which scenarios are left. `resolve_exact` says that the map resolved is made of exactly
these.

The invariant of the outer loop is that the buckets stand in the order of the candidates, each with
what the validators so far gave it. One step of it changes exactly the buckets of the scenarios that
the validator is active in: naming a scenario twice changes nothing, because adding the same
descriptors again does not.
-/

namespace RecordValidation

/-- Whether a validator is active in a scenario depends only on what the scenario is the same as.
Scenarios are only looked for among names, where sameness decides. -/
theorem ValidatorOf.appliesTo_congr (validator : Validator) {scenario other : Value}
    (same : (scenario == other) = true) :
    validator.appliesTo scenario = validator.appliesTo other := by
  simp only [ValidatorOf.appliesTo, List.contains_congr same]

namespace Resolution

/-- The descriptors of the validators active in a scenario, in the order of the validators and
without repetitions. -/
def activeDescriptors (validators : List Validator) (scenario : Value) : List Value :=
  Value.distinct ((validators.filter (·.appliesTo scenario)).flatMap (·.attributes))

/-- A scenario stands under `on` or `except` of some validator. -/
def Mentioned (validators : List Validator) (scenario : Value) : Prop :=
  ∃ validator ∈ validators,
    validator.on.contains scenario = true ∨ validator.except.contains scenario = true

/-- Some validator that has an attribute is active in a scenario. -/
def Populated (validators : List Validator) (scenario : Value) : Prop :=
  ∃ validator ∈ validators, validator.attributes ≠ [] ∧ validator.appliesTo scenario = true

/-- A scenario is the default one, or it is mentioned and has an attribute. -/
def Known (default : Value) (validators : List Validator) (scenario : Value) : Prop :=
  (scenario == default) = true ∨ Mentioned validators scenario ∧ Populated validators scenario

instance (validators : List Validator) (scenario : Value) :
    Decidable (Mentioned validators scenario) :=
  inferInstanceAs (Decidable (∃ validator ∈ validators,
    validator.on.contains scenario = true ∨ validator.except.contains scenario = true))

instance (validators : List Validator) (scenario : Value) :
    Decidable (Populated validators scenario) :=
  inferInstanceAs (Decidable (∃ validator ∈ validators,
    validator.attributes ≠ [] ∧ validator.appliesTo scenario = true))

instance (default : Value) (validators : List Validator) (scenario : Value) :
    Decidable (Known default validators scenario) :=
  inferInstanceAs (Decidable ((scenario == default) = true ∨
    Mentioned validators scenario ∧ Populated validators scenario))

/-- Whether a candidate keeps its place in the scenario map. -/
def survives (default : Value) (validators : List Validator) (scenario : Value) : Bool :=
  !(activeDescriptors validators scenario).isEmpty || scenario == default

/-- Scenarios that are the same have the same descriptors. -/
theorem activeDescriptors_congr (validators : List Validator) (scenario other : Value)
    (same : (scenario == other) = true) :
    activeDescriptors validators scenario = activeDescriptors validators other := by
  have active : (fun validator : Validator => validator.appliesTo scenario) =
      fun validator => validator.appliesTo other :=
    funext fun validator => validator.appliesTo_congr same
  rw [activeDescriptors, activeDescriptors, active]

/-- Candidates that are the same survive together. Both what makes a candidate survive, having a
descriptor and being the default, is the same for it. -/
theorem survives_congr (default : Value) (validators : List Validator) (scenario other : Value)
    (same : (scenario == other) = true) :
    survives default validators scenario = survives default validators other := by
  have alike : (scenario == default) = (other == default) := BEq.congr_left same
  rw [survives, survives, activeDescriptors_congr validators scenario other same, alike]

/-- The candidates are the default scenario and those mentioned, without repetitions. -/
theorem candidates_eq (default : Value) (validators : List Validator) :
    candidates default validators =
      Value.distinct (default :: validators.flatMap mentioned) :=
  insertNew_all_singleton default _

/-- A scenario is a candidate if it is the default one or is mentioned. The candidates are collected
from the default and from what each validator mentions, and collecting brings in nothing else. -/
theorem contains_candidates (default : Value) (validators : List Validator) (scenario : Value) :
    (candidates default validators).contains scenario = true ↔
      (scenario == default) = true ∨ Mentioned validators scenario := by
  rw [candidates_eq, Value.contains_distinct, List.contains_cons, Bool.or_eq_true,
    List.contains_flatMap]
  simp only [Mentioned, mentioned, List.any_eq_true, List.contains_append, Bool.or_eq_true]

/-- Among the candidates, a validator goes to those that it is active in. Without names of its own a
validator goes to the candidates that it does not exclude; with them it goes to these, candidate or
not. -/
theorem contains_applicable (candidates : List Value) (validator : Validator) {scenario : Value}
    (candidate : scenario ∈ candidates) :
    (applicable candidates validator).contains scenario = validator.appliesTo scenario := by
  unfold applicable ValidatorOf.appliesTo
  split
  · rw [Bool.eq_iff_iff, List.contains_iff_exists_mem_beq]
    constructor
    · rintro ⟨other, chosen, same⟩
      rw [List.contains_congr same]
      exact (List.mem_filter.1 chosen).2
    · intro allowed
      exact ⟨scenario, List.mem_filter.2 ⟨candidate, allowed⟩, BEq.rfl⟩
  · rfl

/-- One step of the outer loop: a validator adds its descriptors to the buckets of the candidates it
is active in and leaves the others as they are. Every scenario that it goes to is a candidate, so no
bucket is added, and adding its descriptors twice to a bucket that it names twice changes
nothing. -/
theorem collect_map (candidates : List Value) (content : Value → List Value) (validator : Validator)
    (distinct : candidates.Pairwise fun a b => (a == b) = false)
    (covered : ∀ scenario ∈ validator.on, candidates.contains scenario = true) :
    collect candidates ⟨candidates.map fun name => (name, content name)⟩ validator =
      ⟨candidates.map fun name => (name, if validator.appliesTo name
        then validator.attributes.foldl insertNew (content name) else content name)⟩ := by
  have present : ∀ scenario ∈ applicable candidates validator,
      candidates.contains scenario = true := by
    intro scenario chosen
    unfold applicable at chosen
    split at chosen
    · exact List.contains_iff_exists_mem_beq.2
        ⟨scenario, (List.mem_filter.1 chosen).1, BEq.rfl⟩
    · exact covered scenario chosen
  rw [collect, OrderedMap.alter_all candidates _ content []
    (fun bucket => validator.attributes.foldl insertNew bucket)
    (insertNew_all_again validator.attributes) distinct present]
  congr 1
  apply List.map_congr_left
  intro name candidate
  rw [contains_applicable candidates validator candidate]

/-- The whole outer loop: every bucket ends with the descriptors of the validators active in its
scenario added in order.

Proof: by induction on the validators, one step after the other. -/
theorem collect_all (candidates : List Value) (content : Value → List Value)
    (validators : List Validator)
    (distinct : candidates.Pairwise fun a b => (a == b) = false)
    (covered : ∀ validator ∈ validators, ∀ scenario ∈ validator.on,
      candidates.contains scenario = true) :
    validators.foldl (collect candidates) ⟨candidates.map fun name => (name, content name)⟩ =
      ⟨candidates.map fun name =>
        (name, ((validators.filter (·.appliesTo name)).flatMap (·.attributes)).foldl insertNew
          (content name))⟩ := by
  induction validators generalizing content with
  | nil => rfl
  | cons validator rest inductionHypothesis =>
    rw [List.foldl_cons,
      collect_map candidates content validator distinct (covered validator (by simp)),
      inductionHypothesis _ fun other later => covered other (List.mem_cons_of_mem _ later)]
    congr 1
    apply List.map_congr_left
    intro name _
    by_cases active : validator.appliesTo name = true
    · simp only [active, ↓reduceIte, List.filter_cons_of_pos, List.flatMap_cons, List.foldl_append]
    · simp only [active, Bool.false_eq_true, ↓reduceIte, not_false_eq_true,
        List.filter_cons_of_neg]

/-- Every candidate has the descriptors of the validators active in it, the candidates standing in
their order. All buckets start empty. What the validators add to one, taken from nothing, is what
they list without its repetitions. -/
theorem buckets_eq (default : Value) (validators : List Validator) :
    buckets default validators =
      ⟨(candidates default validators).map fun name =>
        (name, activeDescriptors validators name)⟩ := by
  have distinct : (candidates default validators).Pairwise fun a b => (a == b) = false := by
    rw [candidates_eq]
    exact Value.pairwise_distinct _
  have covered : ∀ validator ∈ validators, ∀ scenario ∈ validator.on,
      (candidates default validators).contains scenario = true := by
    intro validator present scenario named
    have named : validator.on.contains scenario = true :=
      List.contains_iff_exists_mem_beq.2 ⟨scenario, named, BEq.rfl⟩
    exact (contains_candidates default validators scenario).2
      (Or.inr ⟨validator, present, Or.inl named⟩)
  simp only [buckets, collect_all (candidates default validators) (fun _ => []) validators
    distinct covered, insertNew_all_eq_distinct, activeDescriptors]

/-- The scenario map has the candidates that survive, in order, with the descriptors of the
validators active in them. A bucket that is empty and not the default is dropped, which is what
failing to survive means. -/
theorem scenarioMap_eq (default : Value) (validators : List Validator) :
    scenarioMap default validators =
      ⟨⟨((candidates default validators).filter (survives default validators)).map fun name =>
        (name, activeDescriptors validators name)⟩⟩ := by
  rw [scenarioMap, buckets_eq, List.filter_map]
  rfl

/-- A scenario has a descriptor exactly if it is populated. Dropping repetitions leaves nothing only
of nothing, so one attribute of one active validator is enough. -/
theorem activeDescriptors_ne_nil_iff (validators : List Validator) (scenario : Value) :
    activeDescriptors validators scenario ≠ [] ↔ Populated validators scenario := by
  rw [activeDescriptors, Ne, Value.distinct_eq_nil_iff, List.flatMap_eq_nil_iff]
  simp only [Populated, List.mem_filter, Classical.not_forall]
  constructor
  · rintro ⟨validator, ⟨present, active⟩, listed⟩
    exact ⟨validator, present, listed, active⟩
  · rintro ⟨validator, present, listed, active⟩
    exact ⟨validator, ⟨present, active⟩, listed⟩

/-- What survives among the candidates is what is known. -/
theorem contains_survivors (default : Value) (validators : List Validator) (scenario : Value) :
    ((candidates default validators).filter (survives default validators)).contains scenario =
      true ↔ Known default validators scenario := by
  have both : ((candidates default validators).filter (survives default validators)).contains
      scenario = true ↔
        (candidates default validators).contains scenario = true ∧
          survives default validators scenario = true := by
    rw [List.contains_iff_exists_mem_beq, List.contains_iff_exists_mem_beq]
    constructor
    · rintro ⟨other, kept, same⟩
      obtain ⟨present, survivor⟩ := List.mem_filter.1 kept
      exact ⟨⟨other, present, same⟩,
        (survives_congr default validators scenario other same).trans survivor⟩
    · rintro ⟨⟨other, present, same⟩, survivor⟩
      exact ⟨other, List.mem_filter.2 ⟨present,
        (survives_congr default validators scenario other same).symm.trans survivor⟩, same⟩
  have populated : survives default validators scenario = true ↔
      (scenario == default) = true ∨ Populated validators scenario := by
    rw [survives, Bool.or_eq_true, ← activeDescriptors_ne_nil_iff, or_comm]
    simp
  rw [both, contains_candidates, populated, Known, or_and_left]

/-- The descriptors under a scenario are there exactly if the scenario is known, and are those of
the validators active in it. The map is made of the surviving candidates, one value for each, and
values of the same scenario are equal. -/
theorem get?_scenarioMap (default : Value) (validators : List Validator) (scenario : Value) :
    (scenarioMap default validators).scenarios.get? scenario =
      if Known default validators scenario then some (activeDescriptors validators scenario)
      else none := by
  rw [scenarioMap_eq, OrderedMap.get?,
    OrderedMap.lookup_map _ _ scenario (activeDescriptors_congr validators)]
  simp only [contains_survivors]

/-- Whether the map declares a scenario that can be a name is whether it is known. A value that can
be a name is looked up as it is. -/
theorem declares_scenarioMap (default : Value) (validators : List Validator) {scenario : Value}
    (named : scenario.IsName) :
    (scenarioMap default validators).declares scenario =
      .ok (decide (Known default validators scenario)) := by
  have answer : (scenarioMap default validators).declares scenario =
      .ok ((scenarioMap default validators).scenarios.contains scenario) := by
    simp only [ScenarioMap.declares, Value.asName_of_isName named]
    rfl
  rw [answer, OrderedMap.contains, get?_scenarioMap]
  by_cases known : Known default validators scenario <;> simp [known]

/-- The descriptors of a known scenario are those of the validators active in it. -/
theorem descriptors_scenarioMap {default : Value} {validators : List Validator} {scenario : Value}
    (known : Known default validators scenario) :
    (scenarioMap default validators).descriptors scenario =
      activeDescriptors validators scenario := by
  rw [ScenarioMap.descriptors, get?_scenarioMap, if_pos known, Option.getD_some]

/-- A scenario that is not known has no descriptors. -/
theorem descriptors_scenarioMap_of_not_known {default : Value} {validators : List Validator}
    {scenario : Value} (unknown : ¬ Known default validators scenario) :
    (scenarioMap default validators).descriptors scenario = [] := by
  rw [ScenarioMap.descriptors, get?_scenarioMap, if_neg unknown, Option.getD_none]

/-- The names in the map are the default scenario and then the other mentioned scenarios that are
populated, each where it was first mentioned. The default is the first candidate and survives
always. Of the others, those that are the same as the default are dropped with its repetitions, and
those without a descriptor by the filter. -/
theorem names_scenarioMap (default : Value) (validators : List Validator) :
    (scenarioMap default validators).names =
      default :: (Value.distinct (validators.flatMap mentioned)).filter fun scenario =>
        !(scenario == default) &&
          validators.any fun validator =>
            validator.appliesTo scenario && !validator.attributes.isEmpty := by
  have first : survives default validators default = true := by simp [survives]
  have unlike : ∀ a b : Value, (a == b) = true → (!a == default) = !b == default := by
    intro a b same
    rw [BEq.congr_left same]
  have others : candidates default validators =
      default :: (Value.distinct (validators.flatMap mentioned)).filter fun scenario =>
        !scenario == default := by
    rw [candidates_eq, ← Value.distinct_filter _ unlike, Value.distinct, List.eraseDups_cons]
    rfl
  rw [scenarioMap_eq, ScenarioMap.names, OrderedMap.keys, List.map_map, others,
    List.filter_cons_of_pos first, List.map_cons, List.filter_filter]
  simp only [Function.comp_def, List.map_id_fun', id_eq]
  congr 1
  apply List.filter_congr
  intro scenario _
  have populated : (!(activeDescriptors validators scenario).isEmpty) = validators.any
      fun validator => validator.appliesTo scenario && !validator.attributes.isEmpty := by
    rw [Bool.eq_iff_iff]
    have bridge := activeDescriptors_ne_nil_iff validators scenario
    simp only [Populated] at bridge
    simp only [Bool.not_eq_true', List.isEmpty_eq_false_iff, bridge, List.any_eq_true,
      Bool.and_eq_true]
    constructor
    · rintro ⟨validator, present, listed, active⟩
      exact ⟨validator, present, active, listed⟩
    · rintro ⟨validator, present, active, listed⟩
      exact ⟨validator, present, listed, active⟩
  cases same : scenario == default <;> simp [survives, populated, same]

/-- A descriptor is active in a scenario if a validator active in the scenario lists it. -/
theorem contains_activeDescriptors (validators : List Validator) (scenario descriptor : Value) :
    (activeDescriptors validators scenario).contains descriptor = true ↔
      ∃ validator ∈ validators, validator.appliesTo scenario = true ∧
        validator.attributes.contains descriptor = true := by
  rw [activeDescriptors, Value.contains_distinct, List.contains_flatMap]
  simp only [List.any_eq_true, List.mem_filter, and_assoc]

end Resolution

/-- A validator without a check, which only marks its attributes as active in its scenarios. -/
def Validator.marking (attributes on except : List Value) : Validator where
  attributes
  on
  except
  message := .null
  skipOnError := .bool true
  skipOnEmpty := .bool true
  guard := .null
  emptiness := .null
  check := .safe

/-- Everything that a validator names can be a name. -/
def ValidatorOf.Nameable (validator : Validator) : Prop :=
  ∀ name ∈ validator.on ++ validator.except ++ validator.attributes, name.IsName

instance (validator : Validator) : Decidable validator.Nameable :=
  inferInstanceAs (Decidable (∀ name ∈ validator.on ++ validator.except ++ validator.attributes,
    name.IsName))

/-- If all that is named can be a name, the scenarios of a list of validators resolve. Everything
looked up is the default or stands in some validator, so nothing is refused before the map is
made. -/
theorem resolve_of_nameable {default : Value} {validators : List Validator}
    (defaultNamed : default.IsName) (nameable : ∀ validator ∈ validators, validator.Nameable) :
    resolve default validators = .ok (Resolution.scenarioMap default validators) := by
  have named : ∀ name ∈ Resolution.lookedUp default validators, name.IsName := by
    intro name looked
    simp only [Resolution.lookedUp, Resolution.mentioned, List.cons_append, List.mem_cons,
      List.mem_append, List.mem_flatMap, List.mem_filter] at looked
    rcases looked with rfl | ⟨validator, present, listed⟩ | ⟨validator, ⟨present, _⟩, listed⟩
    · exact defaultNamed
    · exact nameable validator present name
        (List.mem_append_left _ (List.mem_append.2 listed))
    · exact nameable validator present name (List.mem_append_right _ listed)
  rw [resolve, Value.asNames_of_isName named]
  rfl

/-- The scenario map of a list of validators is the one that `appliesTo` describes. It always
resolves if all that is named can be a name. A scenario is in it exactly if it is known; a
descriptor is active in a scenario of it exactly if a validator active there lists it; the
descriptors of a scenario are those of the validators active in it, in the order of the validators,
each where it first occurs and once; and the scenarios are the default one and then the others, in
the order in which they are first mentioned.

Proof: the buckets the two loops fill are the ones `activeDescriptors` describes, and the candidates
kept are the known ones. The four parts are read off that map. -/
theorem resolve_exact (default : Value) (validators : List Validator)
    (defaultNamed : default.IsName)
    (nameable : ∀ validator ∈ validators, validator.Nameable) :
    ∃ resolved, resolve default validators = .ok resolved ∧
      (∀ scenario : Value, scenario.IsName →
        (resolved.declares scenario = .ok true ↔
          (scenario == default) = true ∨
            (∃ validator ∈ validators, validator.on.contains scenario = true ∨
              validator.except.contains scenario = true) ∧
            ∃ validator ∈ validators,
              validator.attributes ≠ [] ∧ validator.appliesTo scenario = true)) ∧
      (∀ scenario : Value, scenario.IsName → resolved.declares scenario = .ok true →
        (∀ descriptor, (resolved.descriptors scenario).contains descriptor = true ↔
          ∃ validator ∈ validators, validator.appliesTo scenario = true ∧
            validator.attributes.contains descriptor = true) ∧
        (resolved.descriptors scenario).Pairwise (fun a b => (a == b) = false) ∧
        resolved.descriptors scenario =
          ((validators.filter (·.appliesTo scenario)).flatMap (·.attributes)).eraseDups) ∧
      resolved.names =
        default :: (validators.flatMap fun validator =>
          validator.on ++ validator.except).eraseDups.filter fun scenario =>
            !(scenario == default) && validators.any fun validator =>
              validator.appliesTo scenario && !validator.attributes.isEmpty := by
  refine ⟨Resolution.scenarioMap default validators, resolve_of_nameable defaultNamed nameable,
    ?_, ?_, Resolution.names_scenarioMap default validators⟩
  · intro scenario named
    rw [Resolution.declares_scenarioMap default validators named, Except.ok.injEq,
      decide_eq_true_iff]
    rfl
  · intro scenario named declared
    have known : Resolution.Known default validators scenario := by
      rw [Resolution.declares_scenarioMap default validators named] at declared
      exact of_decide_eq_true (Except.ok.inj declared)
    rw [Resolution.descriptors_scenarioMap known]
    exact ⟨Resolution.contains_activeDescriptors validators scenario,
      Value.pairwise_distinct _, rfl⟩

/-- Validators of a sign-up form, the last of which is active nowhere but where it says so, although
it excludes that very scenario. Nobody with an attribute is active in `closed`. -/
def signUpValidators : List Validator := [
  Validator.marking [.text "name", .text "!role"] [] [.text "closed"],
  Validator.marking [.text "role", .text "name"] [.text "review", .text "review"] [],
  Validator.marking [.text "code"] [.text "import"] [.text "import", .text "closed"]]

/-- The sign-up form has the scenarios `default`, `review` and `import`; `closed` is only excluded
and falls out. In `review` the attribute `role` is active both with the mark and without. -/
theorem resolve_exact_signUp :
    (Value.text "default").IsName ∧ (∀ validator ∈ signUpValidators, validator.Nameable) ∧
    ∃ resolved, resolve (.text "default") signUpValidators = .ok resolved ∧
      resolved.names = [.text "default", .text "review", .text "import"] ∧
      resolved.descriptors (.text "review") = [.text "name", .text "!role", .text "role"] ∧
      resolved.declares (.text "closed") ≠ .ok true := by
  have defaultNamed : (Value.text "default").IsName := rfl
  have nameable : ∀ validator ∈ signUpValidators, validator.Nameable := by decide
  obtain ⟨resolved, resolves, declared, described, names⟩ :=
    resolve_exact (.text "default") signUpValidators defaultNamed nameable
  have review : resolved.declares (.text "review") = .ok true :=
    (declared (.text "review") rfl).2 (by decide)
  refine ⟨defaultNamed, nameable, resolved, resolves, names, ?_, ?_⟩
  · exact (described (.text "review") rfl review).2.2
  · intro closed
    exact absurd ((declared (.text "closed") rfl).1 closed) (by decide)

end RecordValidation
