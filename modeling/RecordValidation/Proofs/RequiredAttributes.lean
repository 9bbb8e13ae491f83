import RecordValidation.Proofs.BuiltValidators
import RecordValidation.Proofs.PassValidators
import RecordValidation.Proofs.ValidPasses

/-!
# Required attributes of a valid model

A model calls an attribute required in its scenario if a validator that is active there asks for it
unconditionally. Three things stand between that answer and a value: the attribute has to be among
those that a pass checks (`Resolution.mem_activeAttributes`), its turn has to be taken, since no
errors of the attribute are there to leave it out for (`Model.answered_of_valid`), and a check that
comes to no message has to mean that the value is there (`Turn.isPresent_of_silent`).
`required_attribute_present` is what follows for a model that was found valid.
-/

namespace RecordValidation

namespace Resolution

/-- In a declared scenario of the map of some validators, the attributes of a validator active there
are among the active ones. A scenario that is declared has the descriptors of the validators active
in it, and a descriptor with a mark names its attribute all the same. -/
theorem mem_activeAttributes {default scenario : Value} {validators : List Validator}
    {known : ScenarioMap} {names : List String}
    (resolved : resolve default validators = .ok known)
    (declared : known.declares scenario = .ok true)
    (told : known.activeAttributes scenario = .ok names) {validator : Validator}
    (present : validator ∈ validators) (active : validator.appliesTo scenario = true)
    {name : String} (own : name ∈ validator.attributeNames) : name ∈ names := by
  obtain ⟨-, -, whole⟩ := Outcome.bind_eq_ok_iff.1 resolved
  obtain rfl : scenarioMap default validators = known := Except.ok.inj whole
  have named : scenario.IsName := ScenarioMap.isName_of_declares declared
  have isKnown : Known default validators scenario := by
    rw [declares_scenarioMap default validators named] at declared
    exact of_decide_eq_true (Except.ok.inj declared)
  have described : Descriptor.names (activeDescriptors validators scenario) = .ok names := by
    rw [ScenarioMap.activeAttributes, Value.asName_of_isName named] at told
    rwa [← descriptors_scenarioMap isKnown]
  have areTexts := Descriptor.texts_of_names described
  obtain rfl : activeNames validators scenario = names :=
    Except.ok.inj ((Descriptor.names_of_texts areTexts).symm.trans described)
  exact attributeNames_subset present active name own

end Resolution

/-- A pass that checks the active attributes, in a scenario of the map of its validators, takes a
turn of each validator that is active there and has a check, at each of its attributes. The names
that it checks are the active ones, and those of such a validator are among them. -/
theorem Pass.mem_turnsIn {ρ : Type} {pass : Pass ρ} {default : Value} {validators : List Validator}
    {found : List Turn}
    (planned : pass.turnsIn (resolve default validators) validators = .ok found)
    (checksActive : pass.names = .null) {validator : Validator} (present : validator ∈ validators)
    (active : validator.appliesTo pass.scenario = true) (checks : validator.checks = true)
    {name : String} (own : name ∈ validator.attributeNames) : ⟨validator, name⟩ ∈ found := by
  obtain ⟨known, resolved, declared, names, checked, -, rfl⟩ := turnsIn_eq_ok_iff.1 planned
  rw [checkedNames, checksActive] at checked
  obtain ⟨activeNames, told, rfl⟩ := Outcome.map_eq_ok_iff.1 checked
  have isActive : name ∈ activeNames :=
    Resolution.mem_activeAttributes resolved declared told present active own
  exact mem_turns present active checks own
    ((Value.contains_text _ _).2 (List.mem_map_of_mem isActive))

/-- A value is present: it is not absent and, unless presence is taken strictly, it is no empty list
or map and no text of blanks alone. -/
def Value.IsPresent (strictly : Bool) (value : Value) : Prop :=
  value ≠ .null ∧ (strictly = false →
    value ≠ .list [] ∧ value ≠ .map [] ∧ ∀ text, value = .text text → Text.trim text ≠ "")

namespace ValidatorOf

/-- A validator requires its attributes and nothing else: it has no wanted value, leaves nothing out
for being empty, and brings no function that decides what is checked or what is empty. -/
structure OnlyRequires (validator : Validator) (strict : Value) : Prop where
  check : validator.check = .required .null strict
  skipsNothing : validator.skipOnEmpty = .bool false
  noGuard : validator.guard = .null
  noEmptiness : validator.emptiness = .null

/-- A validator that requires its attributes has a check. -/
theorem OnlyRequires.checks {validator : Validator} {strict : Value}
    (requires : validator.OnlyRequires strict) : validator.checks = true := by
  rw [ValidatorOf.checks, requires.check]
  rfl

/-- The arguments of a validator that change nothing about what it requires but how strictly. -/
def requiringArguments : List String := ["on", "except_", "message", "strict"]

/-- A validator of the kind for required attributes that is built with such arguments only requires
its attributes. Whatever else could limit it has an argument of its own, which is not among these,
and therefore its default. -/
theorem onlyRequires_of_construct {attributes : Value} {arguments : Arguments}
    {validator : Validator} (built : construct .required attributes arguments = .ok validator)
    (limited : ∀ argument ∈ arguments, argument.1 ∈ requiringArguments) :
    validator.OnlyRequires (arguments.valueOf "strict" (.bool false)) := by
  have absent (name : String) (otherwise : Value) (other : name ∉ requiringArguments) :
      arguments.valueOf name otherwise = otherwise := by
    refine Arguments.valueOf_of_not_given (fun argument given => ?_) otherwise
    rintro rfl
    exact other (limited argument given)
  have parts := construct_eq_ok built
  constructor
  case check =>
    rw [← Except.ok.inj parts.check, absent "required_value" .null (by decide)]
  case skipsNothing =>
    rw [parts.skipOnEmpty, Arguments.skipOnEmpty, absent "skip_on_empty" .null (by decide)]
    rfl
  case noGuard => rw [parts.guard, absent "when" .null (by decide)]
  case noEmptiness => rw [parts.emptiness, absent "is_empty" .null (by decide)]

/-- What a validator that only requires its attributes does not complain about is present. Taken
strictly only null is absent; otherwise it is what counts as empty once the blanks around it are
taken off. -/
theorem OnlyRequires.isPresent {validator : Validator} {strict : Value}
    (requires : validator.OnlyRequires strict) {value : Value}
    (silent : validator.valueComplaint? value = .ok none) : value.IsPresent strict.truthy := by
  have isAbsence : validator.valueComplaint? value =
      absenceComplaint? validator.countsAsEmpty strict validator.message value := by
    rw [valueComplaint?, requires.check]
    rfl
  have own : validator.countsAsEmpty value.stripped = .ok value.stripped.isEmpty :=
    validator.countsAsEmpty_of_isNull _ (by rw [requires.noEmptiness]; rfl)
  rw [isAbsence, absenceComplaint?, own] at silent
  cases strictly : strict.truthy with
  | true =>
    cases value with
    | null =>
      rw [strictly] at silent
      cases silent
    | _ => exact ⟨nofun, nofun⟩
  | false =>
    have filled : value.stripped.isEmpty = false := by
      simpa [strictly] using silent
    refine ⟨?_, fun _ => ⟨?_, ?_, ?_⟩⟩
    · rintro rfl
      cases filled
    · rintro rfl
      cases filled
    · rintro rfl
      cases filled
    · rintro text rfl blank
      simp [Value.stripped, Value.isEmpty, blank] at filled

end ValidatorOf

namespace Turn

variable {ρ : Type} {host : Host ρ}

/-- If the questions of a turn come to no messages, and its validator only requires its attributes,
the record has a value for the attribute, and it is present. Nothing is left out for being empty and
there is no guard, so the questions come down to reading the value and complaining about it. -/
theorem isPresent_of_silent {turn : Turn} {strict : Value} {session : Session ρ} {course : Course}
    (requires : turn.validator.OnlyRequires strict)
    (asked : (turn.ask host).outcome session = .ok course) (silent : course.messages = []) :
    ∃ value, host.read session.record (.text turn.name) = .ok value ∧
      value.IsPresent strict.truthy := by
  have asks : turn.ask host = (do
      let value ← host.get (.text turn.name)
      let complaint ← Act.ofOutcome (turn.validator.valueComplaint? value)
      let messages ← ValidatorOf.word host (.text turn.name) complaint
      return .answered messages) := by
    simp only [ask, ValidatorOf.skipsEmpty, ValidatorOf.skipsGuarded, ValidatorOf.verdict,
      requires.skipsNothing, requires.noGuard, requires.check, Value.truthy, Value.isNull,
      Bool.false_eq_true, ↓reduceIte, pure_bind, bind_assoc]
  rw [asks] at asked
  obtain ⟨value, got, others⟩ := Act.outcome_bind_eq_ok_iff.1 asked
  obtain ⟨complaint, complains, others⟩ := Act.outcome_bind_eq_ok_iff.1 others
  obtain ⟨messages, worded, whole⟩ := Act.outcome_bind_eq_ok_iff.1 others
  obtain rfl : .answered messages = course := Except.ok.inj whole
  have read : host.read session.record (.text turn.name) = .ok value :=
    (Act.outcome_ofOutcome _ session).symm.trans got
  rw [Act.outcome_ofOutcome] at complains
  refine ⟨value, read, requires.isPresent ?_⟩
  obtain rfl : messages = [] := silent
  rwa [ValidatorOf.outcome_word_eq_nil_iff.1 worded] at complains

end Turn

namespace Model

/-- The observers of a model do nothing, neither those of its type nor those set beside them. -/
def IsIdle (model : Model) : Prop :=
  ∀ hook ∈ (model.type.beforeHook :: model.before) ++ model.type.afterHook :: model.after,
    hook.actions = []

/-- A model calls an attribute required if one of the validators that cover it only requires it. A
validator that only requires its attribute has no guard, which is what the question leaves out. -/
theorem isRequired_of_mem {session : Session Model} {name : Value} {found : List Validator}
    {validator : Validator} {strict : Value}
    (asked : (activeFor name).outcome session = .ok found) (chosen : validator ∈ found)
    (requires : validator.OnlyRequires strict) : (isRequired name).outcome session = .ok true := by
  have counts : found.any (fun validator =>
      validator.check.kind == .required && validator.guard.isNull) = true := by
    rw [List.any_eq_true]
    refine ⟨validator, chosen, ?_⟩
    rw [requires.check, requires.noGuard]
    rfl
  exact Act.outcome_bind_eq_ok_iff.2 ⟨found, asked, congrArg Except.ok counts⟩

/-- A model that keeps its validators works out the scenarios that follow from them and nothing
else. -/
theorem run_scenarioMap_of_kept {session : Session Model} {active : List Validator}
    (derived : session.record.type.scenarios = none)
    (kept : session.record.cache.current = some active) :
    scenarioMap.run session =
      (Act.ofOutcome (resolve ScenarioMap.defaultScenario active)).run session := by
  have inForce : session.record.inForce = .ok active := by rw [Model.inForce, kept]
  have map := run_scenarioMap_of_derived derived inForce
  rwa [keeping, kept] at map

section

variable {session : Session Model} {active : List Validator}
  (inForce : session.record.inForce = .ok active)

include inForce

/-- The validators that cover an attribute are chosen among those in force. Keeping the validators
leaves the scenario as it is, so it does not matter in which session that is read. -/
theorem run_activeFor (name : String) :
    (activeFor (.text name)).run session =
      (Act.ofOutcome (activeValidators session.record.scenario (.list [.text name]) active)).run
        (keeping active session) := by
  obtain ⟨cache, record⟩ := record_keeping active session
  have same : (keeping active session).record.scenario = session.record.scenario := by rw [record]
  rw [activeFor, EStateM.run_bind, run_validators inForce, ← same]
  rfl

/-- A validator that covers an attribute in the scenario of a model is in force and active there,
and the attribute is one of its own. It is chosen for covering one name, so that name is the one it
covers. -/
theorem of_mem_activeFor {name : String} {found : List Validator} {validator : Validator}
    (asked : (activeFor (.text name)).outcome session = .ok found) (chosen : validator ∈ found) :
    validator ∈ active ∧ validator.appliesTo session.record.scenario = true ∧
      name ∈ validator.attributeNames := by
  have selected : activeValidators session.record.scenario (.list [.text name]) active =
      .ok found := by
    rwa [Act.outcome_congr (run_activeFor inForce name), Act.outcome_ofOutcome] at asked
  obtain ⟨-, rfl⟩ := Pass.activeValidators_eq_ok_iff.1 selected
  obtain ⟨present, runs⟩ := List.mem_filter.1 chosen
  obtain ⟨applies, covers⟩ := Bool.and_eq_true_iff.1 runs
  obtain ⟨own, covered⟩ := List.exists_mem_of_ne_nil _ (by simpa using covers)
  obtain ⟨listed, among⟩ := List.mem_filter.1 covered
  obtain rfl : own = name := by simpa [Value.text_beq_text] using among
  exact ⟨present, applies, listed⟩

/-- A valid model passes every check of its pass that only looks at it. The observers do nothing and
asking for the validators has kept them, so the pass looks for both its lists in the session it
started with; `Pass.answered_of_valid` does the rest. -/
theorem answered_of_valid {names clears : Value} (derived : session.record.type.scenarios = none)
    (idle : session.record.IsIdle)
    (looks : ∀ validator ∈ active,
      validator.appliesTo session.record.scenario = true → validator.OnlyLooks)
    (valid : (validate names clears).outcome session = .ok true) :
    let begun := keeping active session
    let pass := passFrom active session names clears
    ((validate names clears).final session).record = begun.record ∧
      ∃ turns, pass.turnsIn (resolve ScenarioMap.defaultScenario active) active = .ok turns ∧
        ∀ turn ∈ turns, ∃ course,
          (turn.ask (passHost begun.record.type (depthLimit - 1))).outcome
            (Pass.start pass.clears begun) = .ok course ∧ course.messages = [] := by
  intro begun pass
  obtain ⟨cache, record⟩ := record_keeping active session
  have runs : (validate names clears).run session =
      (pass.run (passHost begun.record.type (depthLimit - 1))).run begun :=
    run_validateTo (depthLimit - 1) inForce
  have started : (Pass.start pass.clears begun).record = begun.record := rfl
  have kept : (Pass.start pass.clears begun).record.cache = session.record.cache.keep active :=
    cache_keeping inForce
  have idlePass : ∀ hook ∈ pass.before ++ pass.after, hook.actions = [] := by
    change begun.record.IsIdle
    rwa [record]
  have worksOut : pass.scenarioMap.run (Pass.start pass.clears begun) =
      (Act.ofOutcome (resolve ScenarioMap.defaultScenario active)).run
        (Pass.start pass.clears begun) := by
    refine run_scenarioMap_of_kept ?_ ?_
    · rwa [started, record]
    · rw [kept]
      rfl
  have finds : pass.validators.run (Pass.start pass.clears begun) =
      .ok active (Pass.start pass.clears begun) := by
    have found : (Pass.start pass.clears begun).record.cache.atGeneration
        begun.record.cache.generation = active := by
      rw [kept, cache_keeping inForce]
      exact ValidatorCache.atGeneration_keep _ _
    exact congrArg (EStateM.Result.ok · (Pass.start pass.clears begun)) found
  rw [Act.outcome_congr runs] at valid
  rw [Act.final_congr runs]
  refine Pass.answered_of_valid idlePass ?_ worksOut finds valid
  change ∀ validator ∈ active,
    validator.appliesTo begun.record.scenario = true → validator.OnlyLooks
  rwa [record]

end

end Model

open Model in
/-- An attribute that a model calls required is present once the model is valid.

Take a model whose scenarios follow from its validators and whose observers do nothing, in a
scenario in which the validators that are active only look at it. Let one of them cover an attribute
and be of the kind for required attributes, built from nothing but attributes, scenarios, a message
and whether it is strict. Then the model calls the attribute required. If it is found valid, whether
or not the errors were cleared first, the attribute has a value, the same before the pass and after
it, which is not absent and, unless the validator is strict, is no empty list or map and no text of
blanks alone.

Proof: the attribute is active, because its validator is, so among the turns of the pass there is
one of this validator at this attribute. The model is valid, so every turn came to no messages, and
this one asked whether the value is present. -/
theorem required_attribute_present {session : Session Model} {active found : List Validator}
    {validator : Validator} {name : String} {attributes clears : Value} {arguments : Arguments}
    (derived : session.record.type.scenarios = none)
    (inForce : session.record.inForce = .ok active) (idle : session.record.IsIdle)
    (looks : ∀ other ∈ active,
      other.appliesTo session.record.scenario = true → other.OnlyLooks)
    (asked : (activeFor (.text name)).outcome session = .ok found) (chosen : validator ∈ found)
    (built : construct .required attributes arguments = .ok validator)
    (limited : ∀ argument ∈ arguments, argument.1 ∈ ValidatorOf.requiringArguments)
    (valid : (validate .null clears).outcome session = .ok true) :
    (isRequired (.text name)).outcome session = .ok true ∧
      ∃ value, session.record.read (.text name) = .ok value ∧
        ((validate .null clears).final session).record.read (.text name) = .ok value ∧
        value.IsPresent (arguments.valueOf "strict" (.bool false)).truthy := by
  have requires := ValidatorOf.onlyRequires_of_construct built limited
  obtain ⟨present, applies, own⟩ := of_mem_activeFor inForce asked chosen
  obtain ⟨recordLeft, turns, planned, silent⟩ := answered_of_valid inForce derived idle looks valid
  obtain ⟨cache, record⟩ := record_keeping active session
  have sameRead (model : Model) (same : model = (keeping active session).record) :
      model.read (.text name) = session.record.read (.text name) := by
    rw [same, record]
    exact read_congr rfl rfl
  have taken : ⟨validator, name⟩ ∈ turns := by
    refine Pass.mem_turnsIn planned rfl present ?_ requires.checks own
    change validator.appliesTo (keeping active session).record.scenario = true
    rwa [record]
  obtain ⟨course, answered, without⟩ := silent _ taken
  obtain ⟨value, begunRead, isPresent⟩ := Turn.isPresent_of_silent requires answered without
  have read : session.record.read (.text name) = .ok value :=
    (sameRead _ rfl).symm.trans begunRead
  refine ⟨isRequired_of_mem asked chosen requires, value, read, ?_, isPresent⟩
  rw [sameRead _ recordLeft, read]

namespace Model

/-- Bookings, which are for known guests and need one once they are confirmed. -/
def bookingType : ModelType where
  name := "Booking"
  schema := ⟨[⟨"guest", .text "ada", none⟩], by decide⟩
  rules := [
    .list [.text "guest", .text "in",
      .map [(.text "range", .list [.text "ada", .text "alan"])]],
    .list [.text "!guest", .text "required", .map [(.text "on", .text "confirm")]]]
  formName := .null
  tracesUnsafe := .bool false
  labels := none
  scenarios := none
  before := none
  after := none
  methods := .empty

/-- The check that a guest is known. -/
def guestKnown : Validator := { Validator.marking [.text "guest"] [] [] with
  check := .range [.text "ada", .text "alan"] (.bool false) (.bool false) (.bool false) }

/-- The check that there is a guest. -/
def guestRequired : Validator := { Validator.marking [.text "!guest"] [.text "confirm"] [] with
  skipOnEmpty := .bool false, check := .required .null (.bool false) }

end Model

open Model in
/-- A booking that is confirmed calls its guest required, and as it is valid the guest is present,
although another check of the guest stands before the one that asks for it. -/
theorem required_attribute_present_booking :
    let session := (fresh bookingType (.text "confirm")).session
    session.record.inForce = .ok [guestKnown, guestRequired] ∧ session.record.IsIdle ∧
      (validate .null (.bool false)).outcome session = .ok true ∧
      (isRequired (.text "guest")).outcome session = .ok true ∧
      ∃ value, session.record.read (.text "guest") = .ok value ∧ value.IsPresent false := by
  intro session
  have inForce : session.record.inForce = .ok [guestKnown, guestRequired] := rfl
  have idle : session.record.IsIdle := by
    intro hook present
    simp only [session, Model.session, fresh, List.cons_append, List.nil_append,
      List.mem_cons, List.not_mem_nil, or_false] at present
    rcases present with rfl | rfl <;> rfl
  have asked : (activeFor (.text "guest")).outcome session = .ok [guestKnown, guestRequired] := rfl
  have built : construct .required (.list [.text "!guest"])
      [("on", .list [.text "confirm"]), ("except_", .list [])] = .ok guestRequired := rfl
  have valid : (validate .null (.bool false)).outcome session = .ok true := rfl
  obtain ⟨required, value, read, -, isPresent⟩ := required_attribute_present rfl inForce idle
    (by decide) asked (by simp) built (by decide) valid
  exact ⟨inForce, idle, valid, required, value, read, isPresent⟩

end RecordValidation
