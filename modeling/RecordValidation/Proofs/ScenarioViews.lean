import RecordValidation.Proofs.Resolution

/-!
# Active and safe attributes of resolved scenarios

The two views of a scenario in terms of the validators active in it. `activeAttributes_scenarioMap`
says which attributes are checked there and `mem_safeAttributes` which ones mass assignment may
write. Descriptors have to be texts, because nothing else has a mark to be asked for.

The views are taken of the descriptors, not of the attributes: the one strips the mark, the other
drops the descriptors that have one. An attribute listed in both ways is therefore both active and
safe.
-/

namespace RecordValidation

/-- The descriptors of a validator are texts, and the scenarios it names can be names. -/
structure ValidatorOf.WellNamed (validator : Validator) : Prop where
  descriptors : ∀ descriptor ∈ validator.attributes, descriptor.text?.isSome = true
  scenarios : ∀ scenario ∈ validator.on ++ validator.except, scenario.IsName

instance (validator : Validator) : Decidable validator.WellNamed :=
  decidable_of_iff ((∀ descriptor ∈ validator.attributes, descriptor.text?.isSome = true) ∧
      ∀ scenario ∈ validator.on ++ validator.except, scenario.IsName)
    ⟨fun parts => ⟨parts.1, parts.2⟩, fun named => ⟨named.descriptors, named.scenarios⟩⟩

/-- A value that is a text is the text it is. -/
theorem Value.eq_text_of_isSome {value : Value} (isText : value.text?.isSome = true) :
    ∃ name, value = .text name := by
  cases value with
  | text name => exact ⟨name, rfl⟩
  | null | bool | int | float | list | tuple | map | pattern | script | kind | validator | rule
  | method => simp [Value.text?] at isText

/-- A value is a text exactly if the text it is is that text. -/
theorem Value.text?_eq_some_iff {value : Value} {name : String} :
    value.text? = some name ↔ value = .text name := by
  cases value <;> simp [Value.text?]

/-- What a well-named validator names can be a name. Its scenarios can be by assumption, and its
descriptors because they are texts. -/
theorem ValidatorOf.WellNamed.nameable {validator : Validator} (named : validator.WellNamed) :
    validator.Nameable := by
  intro name listed
  rcases List.mem_append.1 listed with scenario | descriptor
  · exact named.scenarios name scenario
  · obtain ⟨text, rfl⟩ := Value.eq_text_of_isSome (named.descriptors name descriptor)
    exact Value.isName_text text

namespace Descriptor

/-- The texts among some descriptors. -/
def texts (descriptors : List Value) : List String := descriptors.filterMap Value.text?

/-- The texts among descriptors are the descriptors that are texts. A text has itself for its text
and shares it with no other value, so the one list is read off the other. -/
theorem mem_texts {descriptors : List Value} {descriptor : String} :
    descriptor ∈ texts descriptors ↔ Value.text descriptor ∈ descriptors := by
  simp only [texts, List.mem_filterMap, Value.text?_eq_some_iff]
  constructor
  · rintro ⟨value, present, rfl⟩
    exact present
  · intro present
    exact ⟨_, present, rfl⟩

/-- A map over descriptors that are texts is a map over the texts.

Proof: by induction on the descriptors; the first is a text, so it is mapped and not refused. -/
theorem mapM_ofValue {α : Type} (f : String → α) {descriptors : List Value}
    (areTexts : ∀ descriptor ∈ descriptors, descriptor.text?.isSome = true) :
    descriptors.mapM (fun descriptor => f <$> ofValue descriptor) =
      .ok ((texts descriptors).map f) := by
  induction descriptors with
  | nil => rfl
  | cons descriptor rest inductionHypothesis =>
    obtain ⟨text, rfl⟩ := Value.eq_text_of_isSome (areTexts descriptor (by simp))
    have others := inductionHypothesis fun other later =>
      areTexts other (List.mem_cons_of_mem _ later)
    rw [List.mapM_cons, others]
    rfl

/-- Descriptors that are texts have names, and these are read off their texts. -/
theorem names_of_texts {descriptors : List Value}
    (areTexts : ∀ descriptor ∈ descriptors, descriptor.text?.isSome = true) :
    names descriptors = .ok ((texts descriptors).map name) :=
  mapM_ofValue name areTexts

/-- The safe ones of descriptors that are texts. All descriptors are read first, and the marked ones
are dropped from what was read. -/
theorem safeNames_of_texts {descriptors : List Value}
    (areTexts : ∀ descriptor ∈ descriptors, descriptor.text?.isSome = true) :
    safeNames descriptors =
      .ok ((texts descriptors).filter fun descriptor => !isUnsafe descriptor) := by
  have read : descriptors.mapM ofValue = .ok (texts descriptors) := by
    have mapped := mapM_ofValue id areTexts
    simpa only [id_map, List.map_id] using mapped
  rw [safeNames, read]
  rfl

end Descriptor

namespace Resolution

/-- A text is an active descriptor of a scenario exactly if a validator active there lists it. -/
theorem text_mem_activeDescriptors {validators : List Validator} {scenario : Value}
    {descriptor : String} :
    Value.text descriptor ∈ activeDescriptors validators scenario ↔
      ∃ validator ∈ validators, validator.appliesTo scenario = true ∧
        Value.text descriptor ∈ validator.attributes := by
  simp only [← Value.contains_text, contains_activeDescriptors]

/-- The active descriptors of well-named validators are texts. Each comes from one of the
validators, whose descriptors are texts. -/
theorem isText_of_mem_activeDescriptors {validators : List Validator} {scenario : Value}
    (named : ∀ validator ∈ validators, validator.WellNamed) :
    ∀ descriptor ∈ activeDescriptors validators scenario, descriptor.text?.isSome = true := by
  intro descriptor active
  obtain ⟨validator, chosen, listed⟩ := List.mem_flatMap.1 (Value.mem_of_mem_distinct active)
  exact (named validator (List.mem_filter.1 chosen).1).descriptors descriptor listed

/-- The attributes that are checked in a scenario: those that the validators active there list, with
the mark or without. -/
def activeNames (validators : List Validator) (scenario : Value) : List String :=
  (Descriptor.texts (activeDescriptors validators scenario)).map Descriptor.name

/-- The active attributes of a known scenario can be told. Its descriptors are texts, so that none
is refused when the marks are taken off. -/
theorem activeAttributes_scenarioMap {default : Value} {validators : List Validator}
    {scenario : Value} (scenarioNamed : scenario.IsName)
    (named : ∀ validator ∈ validators, validator.WellNamed)
    (known : Known default validators scenario) :
    (scenarioMap default validators).activeAttributes scenario =
      .ok (activeNames validators scenario) := by
  rw [ScenarioMap.activeAttributes, Value.asName_of_isName scenarioNamed]
  simp only [bind, Except.bind, descriptors_scenarioMap known]
  exact Descriptor.names_of_texts (isText_of_mem_activeDescriptors named)

/-- The attributes that may be written in a scenario. -/
def safeAttributes (default : Value) (validators : List Validator) (scenario : Value) :
    List String :=
  (Descriptor.texts ((scenarioMap default validators).descriptors scenario)).filter
    fun descriptor => !Descriptor.isUnsafe descriptor

/-- The safe attributes of any scenario can be told. A scenario that is not known has no
descriptors, and those of a known one are texts. -/
theorem safeAttributes_scenarioMap {default : Value} {validators : List Validator}
    {scenario : Value} (scenarioNamed : scenario.IsName)
    (named : ∀ validator ∈ validators, validator.WellNamed) :
    (scenarioMap default validators).safeAttributes scenario =
      .ok (safeAttributes default validators scenario) := by
  have areTexts : ∀ descriptor ∈ (scenarioMap default validators).descriptors scenario,
      descriptor.text?.isSome = true := by
    by_cases known : Known default validators scenario
    · rw [descriptors_scenarioMap known]
      exact isText_of_mem_activeDescriptors named
    · simp [descriptors_scenarioMap_of_not_known known]
  rw [ScenarioMap.safeAttributes, Value.asName_of_isName scenarioNamed]
  exact Descriptor.safeNames_of_texts areTexts

/-- Mass assignment may write exactly the attributes that have no mark and are listed by a validator
active in the scenario, provided that the scenario is the default one or is mentioned at all. A
scenario in which a validator with an attribute is active is populated, so being the default or
mentioned is all that it lacks for being known. -/
theorem mem_safeAttributes {default : Value} {validators : List Validator} {scenario : Value}
    {name : String} :
    name ∈ safeAttributes default validators scenario ↔
      Descriptor.isUnsafe name = false ∧
        ((scenario == default) = true ∨ Mentioned validators scenario) ∧
        ∃ validator ∈ validators, validator.appliesTo scenario = true ∧
          Value.text name ∈ validator.attributes := by
  rw [safeAttributes, List.mem_filter, Descriptor.mem_texts, Bool.not_eq_true', and_comm]
  refine and_congr_right fun _ => ?_
  constructor
  · intro active
    by_cases known : Known default validators scenario
    · rw [descriptors_scenarioMap known] at active
      exact ⟨known.imp_right And.left, text_mem_activeDescriptors.1 active⟩
    · simp [descriptors_scenarioMap_of_not_known known] at active
  · rintro ⟨reachable, validator, present, active, listed⟩
    have populated : Populated validators scenario :=
      ⟨validator, present, List.ne_nil_of_mem listed, active⟩
    have known : Known default validators scenario := reachable.imp_right fun mentioned =>
      ⟨mentioned, populated⟩
    rw [descriptors_scenarioMap known]
    exact text_mem_activeDescriptors.2 ⟨validator, present, active, listed⟩

end Resolution

end RecordValidation
