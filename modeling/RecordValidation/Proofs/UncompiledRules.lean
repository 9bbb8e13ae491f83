import RecordValidation.Proofs.MassAssignment
import RecordValidation.Proofs.ModelWalk

/-!
# Models whose rules do not compile

The rules of a model are compiled when they are first needed. If they do not compile, whatever needs
them stops with the fault of the compilation, and everything is as it was before: attributes,
errors, the scenario and what was observed. Nothing is kept, so the next use stops in the same way.

`Model.Operation.NeedsRules` says which operations these are. `Model.Bare` says that a model keeps
no validators; a model whose rules do not compile stays that way whatever is done with it
(`Model.bare_runOperations`). Writing attributes is none of the operations that need the rules, nor
is mass assignment that is not limited to safe attributes: `uncompiled_rules_exact`.
-/

namespace RecordValidation

namespace Model

/-- The operations that need the rules of a model: to validate it, to add a validator, to assign
only what is safe, to load data that is there, and to ask for its validators, its scenarios or what
follows from them. -/
def Operation.NeedsRules (model : Model) : Operation → Prop
  | validators | validate .. | scenarios | safeAttributes | activeAttributes | activeFor _
  | isSafe _ | isActive _ | isRequired _ | inject _ | perform (.inject _) => True
  | setAttributes _ safeOnly => safeOnly.truthy = true
  | load data formName =>
    let scope := if formName.isNull then model.type.formNameOrOwn else formName
    ∃ own, formData? scope data = .ok (some own)
  | resetValidators | invoke .. | perform _ | observe .. => False

/-- A session on a model of a type that keeps no validators and holds one value for each attribute
of its schema. -/
structure Bare (type : ModelType) (session : Session Model) : Prop where
  ofType : session.record.type = type
  nothingKept : session.record.cache.current = none
  follows : session.record.FollowsSchema

/-- A fresh model keeps no validators. -/
theorem bare_fresh (type : ModelType) (scenario : Value) :
    Bare type (fresh type scenario).session :=
  ⟨rfl, rfl, followsSchema_fresh type scenario⟩

variable {type : ModelType} {fault : Fault} {session : Session Model}

/-! ## What needs the rules stops -/

section

variable (refused : compile .builtin (some type.owner) type.rules = .error fault)
  (bare : Bare type session)

include refused bare

/-- Asking for the validators stops. None are kept, so the rules are compiled first, and nothing is
kept or reported before that is done. -/
theorem run_validators_of_refused : validators.run session = .error fault session := by
  unfold validators
  rw [EStateM.run_bind, Act.run_record]
  simp only [bare.nothingKept]
  refine Act.run_bind_of_error ?_
  rw [compileRules, EStateM.run_bind, Act.run_record]
  simp only [bare.ofType, refused]
  exact Act.run_bind_of_error rfl

/-- Working out the scenarios stops if they follow from the rules. A model that declares its
scenarios would not ask for validators, which the premise excludes. -/
theorem run_scenarioMap_of_refused (derived : type.scenarios = none) :
    scenarioMap.run session = .error fault session := by
  unfold scenarioMap
  rw [EStateM.run_bind, Act.run_record]
  simp only [bare.ofType, derived]
  exact Act.run_bind_of_error (run_validators_of_refused refused bare)

/-- Assigning what is safe stops before the values are looked at. -/
theorem run_setAttributes_of_refused (derived : type.scenarios = none) (values : Value)
    {safeOnly : Value} (safe : safeOnly.truthy = true) :
    (setAttributes values safeOnly).run session = .error fault session := by
  unfold setAttributes
  simp only [safe, ↓reduceIte, map_eq_pure_bind, bind_assoc]
  have safeAttributes : safeAttributes.run session = .error fault session :=
    Act.run_bind_of_error (run_scenarioMap_of_refused refused bare derived)
  exact Act.run_bind_of_error safeAttributes

/-- Whatever needs the rules stops with what their compilation stops with, and leaves everything as
it was. Each of them asks for the validators or the scenarios before it does anything else, so the
cases differ only in how deep the question is. -/
theorem Operation.run_of_refused (derived : type.scenarios = none) {operation : Operation}
    (needs : operation.NeedsRules session.record) :
    operation.act.run session = .error fault session := by
  have asksValidators := run_validators_of_refused refused bare
  have asksScenarios := run_scenarioMap_of_refused refused bare derived
  have safeAttributes : Model.safeAttributes.run session = .error fault session :=
    Act.run_bind_of_error asksScenarios
  have activeAttributes : Model.activeAttributes.run session = .error fault session :=
    Act.run_bind_of_error asksScenarios
  have activeFor (name : Value) : (Model.activeFor name).run session = .error fault session :=
    Act.run_bind_of_error asksValidators
  cases operation with
  | validators => exact Act.run_bind_of_error asksValidators
  | inject validator => exact Act.run_bind_of_error asksValidators
  | validate names clears =>
    exact Act.run_bind_of_error (Act.run_bind_of_error asksValidators)
  | setAttributes values safeOnly =>
    exact run_setAttributes_of_refused refused bare derived values needs
  | load data formName =>
    obtain ⟨own, found⟩ := needs
    refine Act.run_bind_of_error ?_
    unfold Model.load
    rw [EStateM.run_bind, Act.run_record]
    simp only [found, Act.ofOutcome_ok, pure_bind]
    exact Act.run_bind_of_error (run_setAttributes_of_refused refused bare derived own rfl)
  | scenarios => exact Act.run_bind_of_error asksScenarios
  | safeAttributes => exact Act.run_bind_of_error safeAttributes
  | activeAttributes => exact Act.run_bind_of_error activeAttributes
  | activeFor name => exact Act.run_bind_of_error (activeFor name)
  | isSafe name => exact Act.run_bind_of_error (Act.run_bind_of_error safeAttributes)
  | isActive name => exact Act.run_bind_of_error (Act.run_bind_of_error activeAttributes)
  | isRequired name => exact Act.run_bind_of_error (Act.run_bind_of_error (activeFor name))
  | perform action =>
    cases action with
    | inject validator => exact Act.run_bind_of_error asksValidators
    | _ => exact needs.elim
  | resetValidators | invoke | observe => exact needs.elim

/-- Operations that need the rules leave everything as it was, however many of them are tried. The
session after each is the one before it, so the next stops in the same way. -/
theorem runOperations_of_refused (derived : type.scenarios = none) {operations : List Operation}
    (needs : ∀ operation ∈ operations, operation.NeedsRules session.record) :
    runOperations operations session = session := by
  induction operations with
  | nil => rfl
  | cons operation rest inductionHypothesis =>
    have stopped := Operation.run_of_refused refused bare derived (needs operation (by simp))
    have unchanged : operation.act.final session = session := (Act.run_eq_error_iff.1 stopped).2
    rw [runOperations, List.foldl_cons, unchanged]
    exact inductionHypothesis fun other later => needs other (List.mem_cons_of_mem _ later)

end

/-! ## Nothing is ever kept -/

/-- Writing an attribute keeps no validators. -/
theorem preserves_bare_set (type : ModelType) (name value : Value) :
    Act.Preserves (Bare type) (perform (.set name value)) := by
  intro session bare
  obtain ⟨values, result, follows⟩ := exists_values_of_set name value bare.follows
  rw [result]
  exact ⟨bare.ofType, bare.nothingKept, follows⟩

/-- If the rules do not compile, nothing that work on a model is made of keeps validators. Asking
for validators and adding one stop; every other one of the single things leaves the cache or forgets
what is in it. -/
theorem bare_primitives (refused : compile .builtin (some type.owner) type.rules = .error fault) :
    Primitives (Act.Preserves (Bare type)) where
  toCompositional := Act.compositional_preserves (Bare type)
  looks := Act.preserves_ofOutcome
  record _ bare := bare
  errors _ bare := bare
  changesErrors _ _ bare := ⟨bare.ofType, bare.nothingKept, bare.follows⟩
  observes _ _ _ bare := ⟨bare.ofType, bare.nothingKept, bare.follows⟩
  writes := preserves_bare_set type
  enters _ _ bare := ⟨bare.ofType, bare.nothingKept, bare.follows⟩
  validators session bare := by
    have stopped := run_validators_of_refused refused bare
    rwa [(Act.run_eq_error_iff.1 stopped).2]
  injects validator session bare := by
    have stopped : (inject validator).run session = .error fault session :=
      Act.run_bind_of_error (run_validators_of_refused refused bare)
    rwa [(Act.run_eq_error_iff.1 stopped).2]
  resets session bare := ⟨bare.ofType, session.record.cache.current_forget, bare.follows⟩

/-- Whatever is done with a model whose rules do not compile, it keeps no validators. This is the
run lemma to `bare_primitives`, with an argument for having other observers, which changes the
observers alone. -/
theorem bare_runOperations
    (refused : compile .builtin (some type.owner) type.rules = .error fault)
    (operations : List Operation) (bare : Bare type session) :
    Bare type (runOperations operations session) :=
  (bare_primitives refused).invariant_runOperations
    (fun _ _ _ _ bare => ⟨bare.ofType, bare.nothingKept, bare.follows⟩) operations bare

end Model

open Model in
/-- A model whose rules do not compile stays usable and intact.

Take a type of models whose scenarios follow from its rules, and whose rules do not compile. A fresh
model keeps no validators, and none are kept whatever is done with it. In any session on a model of
the type that keeps none, every operation that needs the rules stops with the fault of the
compilation, and leaves the session as it was: the attributes, the errors, which are not even
cleared, the scenario, the validators, of which there are none, and what was observed, so that no
observer ran, nobody was told anything and no compilation was reported. So do any number of such
operations. Assigning a map without a limit to safe attributes goes through: it sets the attributes
of the schema that the map names to its values and leaves everything else as it was.

Proof: the first thing that such an operation does to the session, after looking at it, is to ask
for the validators, and that stops. A single thing that does not stop keeps no validators, so
operations keep none. -/
theorem uncompiled_rules_exact {type : ModelType} {fault : Fault}
    (derived : type.scenarios = none)
    (refused : compile .builtin (some type.owner) type.rules = .error fault) :
    (∀ scenario operations,
      Bare type (runOperations operations (fresh type scenario).session)) ∧
    ∀ session, Bare type session →
      (∀ operation : Operation, operation.NeedsRules session.record →
        operation.act.run session = .error fault session) ∧
      (∀ operations : List Operation,
        (∀ operation ∈ operations, operation.NeedsRules session.record) →
          runOperations operations session = session) ∧
      ∀ entries safeOnly, safeOnly.truthy = false →
        entries.Pairwise (fun a b => (a.1 == b.1) = false) →
        ∃ values, (setAttributes (.map entries) safeOnly).run session =
            .ok () { session with record := { session.record with values } } ∧
          (∀ entry ∈ entries, entry.1 ∈ session.record.attributeNames →
            { session.record with values : Model }.read entry.1 = .ok entry.2) ∧
          ∀ name, (∀ entry ∈ entries, (name == entry.1) = true →
              entry.1 ∉ session.record.attributeNames) →
            { session.record with values : Model }.read name = session.record.read name := by
  refine ⟨fun scenario operations => ?_, fun session bare => ⟨?_, ?_, ?_⟩⟩
  · exact bare_runOperations refused operations (bare_fresh type scenario)
  · exact fun operation needs => Operation.run_of_refused refused bare derived needs
  · exact fun operations needs => runOperations_of_refused refused bare derived needs
  · intro entries safeOnly notSafe distinct
    let after := assigned session.record.attributeNames.contains (fun _ => []) entries session
    have assigns : (setAttributes (.map entries) safeOnly).run session = .ok () after :=
      run_setAttributes_of_not_safe notSafe bare.follows entries
    have result : after =
        { session with record := { session.record with values := after.record.values } } := by
      simp [after, assigned]
    refine ⟨after.record.values, assigns.trans (congrArg _ result), ?_, ?_⟩
    · intro entry present declared
      obtain ⟨name, -, named⟩ := List.mem_map.1 declared
      have isName : entry.1.IsName := named ▸ Value.isName_text name
      have permitted : session.record.attributeNames.contains entry.1 = true :=
        List.contains_iff_exists_mem_beq.2 ⟨entry.1, declared, BEq.rfl⟩
      change after.record.read entry.1 = .ok entry.2
      exact read_assigned_of_mem distinct present isName permitted
    · intro name unwritten
      change after.record.read name = session.record.read name
      refine read_assigned_of_unwritten distinct fun entry present permitted => ?_
      rw [Bool.eq_false_iff]
      intro same
      obtain ⟨text, declared, isText⟩ := (Value.contains_texts _ _).1 permitted
      exact unwritten entry present same (isText ▸ List.mem_map_of_mem declared)

namespace Model

/-- Accounts, with a rule that misspells the kind of check it asks for. -/
def misspelledType : ModelType where
  name := "Account"
  schema := ⟨[⟨"name", .null, none⟩, ⟨"role", .text "member", none⟩], by decide⟩
  rules := [.list [.text "name", .text "safe"], .list [.text "role", .text "requird"]]
  formName := .null
  tracesUnsafe := .bool true
  labels := none
  scenarios := none
  before := some ⟨[.clearErrors .null, .note (.text "validating")], .null⟩
  after := none
  methods := .empty

end Model

open Model in
/-- A message was added for the name of an account and observers were set when it is validated and
loaded: both stop with the same fault, no observer runs and the message is still there. Its name can
be assigned without a limit to safe attributes. -/
theorem uncompiled_rules_exact_misspelled :
    let session := runOperations
      [.perform (.addError (.text "name") (.text "taken")),
        .observe [⟨[], .bool false⟩] [] [⟨none⟩]]
      (fresh misspelledType (.text "default")).session
    let fault : Fault := .declaration (Registry.builtin.unknownAlias "requird")
      (.list [.text "role", .text "requird"])
    let form : List (Value × Value) := [(.text "name", .text "ada")]
    (Operation.validate .null (.bool true)).act.run session = .error fault session ∧
    (Operation.load (.map form) (.text "")).act.run session = .error fault session ∧
    session.errors.get (.text "name") = [.text "taken"] ∧ session.events.length = 0 ∧
    ∃ after, (setAttributes (.map form) (.bool false)).run session = .ok () after ∧
      after.record.read (.text "name") = .ok (.text "ada") := by
  intro session fault form
  have refused : compile .builtin (some misspelledType.owner) misspelledType.rules =
      .error fault := rfl
  have derived : misspelledType.scenarios = none := rfl
  obtain ⟨reached, intact⟩ := uncompiled_rules_exact derived refused
  have bare : Bare misspelledType session := reached _ _
  obtain ⟨stops, -, assigns⟩ := intact session bare
  have loads : (Operation.load (.map form) (.text "")).NeedsRules session.record :=
    ⟨.map form, rfl⟩
  obtain ⟨values, assigned, written, -⟩ := assigns form (.bool false) rfl (by decide)
  refine ⟨stops (.validate .null (.bool true)) trivial, stops _ loads, rfl, rfl, _, assigned, ?_⟩
  have declared : Value.text "name" ∈ session.record.attributeNames := by
    rw [attributeNames, bare.ofType]
    simp [misspelledType, Schema.names]
  exact written (.text "name", .text "ada") (by simp [form]) declared

end RecordValidation
