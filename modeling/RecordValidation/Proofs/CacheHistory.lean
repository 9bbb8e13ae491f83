import RecordValidation.Proofs.CacheSteps

/-!
# The validator cache over whole runs

The single things that work on a model is made of have traces (`Model.traced_primitives`), so each
operation, validation with all that observers, methods and passes inside of it do, has a trace of
steps in which it has to do with the validators kept (`Model.Operation.traced`), and operations in a
row have a history. `model_cache_history` tells from the history what is given to those who ask for
the validators, and how often and when the rules are compiled.
-/

namespace RecordValidation

/-- The validator that an action adds, if it adds one. -/
def ActionOf.injected? : Action → Option Validator
  | .inject validator => some validator
  | _ => none

/-- Whether an action forgets the validators. -/
def ActionOf.resets : Action → Bool
  | .resetValidators => true
  | _ => false

namespace Model

/-! ## Work on a model has a trace -/

/-- Work on models of a type has a trace wherever it begins, and leaves the type. -/
def Traced (type : ModelType) ⦃α : Type⦄ (work : Act Model α) : Prop :=
  ∀ session : Session Model, session.record.type = type →
    (∃ steps, Trace work session steps) ∧ (work.final session).record.type = type

variable {type : ModelType} {α : Type}

/-- Work that leaves the validators alone has a trace without steps. -/
theorem traced_of_keeps {work : Act Model α} (keeps : Act.Keeps kept work) : Traced type work := by
  intro session ofType
  have left := keeps session
  simp only [kept, Prod.mk.injEq] at left
  exact ⟨⟨[], .idle keeps session⟩, left.1.trans ofType⟩

/-- Work has a trace if it has one piece by piece. The second piece begins where the first ends, and
its trace is taken from there; if the first stops, its trace is all there is. -/
theorem compositional_traced (type : ModelType) : Act.Compositional (Traced type) where
  pure _ := traced_of_keeps fun _ => rfl
  throw _ _ := traced_of_keeps fun _ => rfl
  bind := by
    intro α β first next before after session ofType
    obtain ⟨⟨steps, trace⟩, typeKept⟩ := before session ofType
    cases run : first.run session with
    | ok value middle =>
      obtain ⟨given, reached⟩ := Act.run_eq_ok_iff.1 run
      rw [reached] at typeKept
      obtain ⟨⟨others, behind⟩, typeLeft⟩ := after value middle typeKept
      refine ⟨⟨steps ++ others, .both trace run behind⟩, ?_⟩
      simpa only [Act.final_bind, given, reached] using typeLeft
    | error fault middle =>
      refine ⟨⟨steps, .stopped trace run⟩, ?_⟩
      simpa only [Act.final_bind, (Act.run_eq_error_iff.1 run).1] using typeKept

/-- Looking at values has a trace without steps. -/
theorem traced_ofOutcome (outcome : Outcome α) :
    Traced type (Act.ofOutcome outcome : Act Model α) :=
  traced_of_keeps (Act.keeps_ofOutcome outcome)

/-- Asking for the model has a trace without steps. -/
theorem traced_record : Traced type (Act.record : Act Model Model) :=
  traced_of_keeps Act.keeps_record

/-- Observing something else than a compilation leaves the validators alone. -/
theorem keeps_observe {event : Event} (other : event.isCompilation = false) :
    Act.Keeps kept (Act.observe event : Act Model Unit) :=
  Act.keeps_modify fun session => by simp [kept, compilations, other]

/-- Writing an attribute leaves the validators alone. It is stated for every host that writes as
models do, since methods are called on hosts that differ in what they invoke. -/
theorem keeps_set (host : Host Model) (written : host.write = Model.write) (name value : Value) :
    Act.Keeps kept (host.set name value) := by
  intro session
  unfold Act.final
  rw [Host.run_set, written]
  cases done : Model.write session.record name value with
  | error fault => rfl
  | ok changed =>
    obtain ⟨values, rfl⟩ := exists_values_of_write done
    rfl

/-- An action that neither adds nor forgets validators leaves them alone. A note is reported, but it
is no report of a compilation. -/
theorem keeps_perform {action : Action} (adds : action.injected? = none)
    (forgets : action.resets = false) : Act.Keeps kept (perform action) := by
  have closed := Act.compositional_keeps (ρ := Model) kept
  have changesErrors : ∀ change, Act.Keeps kept (Act.modifyErrors change : Act Model Unit) :=
    fun change => Act.keeps_modify fun _ => rfl
  cases action with
  | set name value =>
    intro session
    exact keeps_set (plainHost session.record.type) rfl name value session
  | addError name message => exact closed.addError Act.keeps_ofOutcome changesErrors name message
  | clearErrors name => exact closed.clearErrors Act.keeps_ofOutcome changesErrors name
  | enter scenario => exact fun _ => rfl
  | inject validator => cases adds
  | resetValidators => cases forgets
  | note text => exact keeps_observe rfl
  | noteErrors => exact closed.bind Act.keeps_errors fun _ => keeps_observe rfl
  | raise message => exact Act.keeps_ofOutcome (.error _)

/-- Forgetting the validators has a trace. -/
theorem traced_resetValidators : Traced type resetValidators := fun session ofType =>
  ⟨⟨_, .forget session⟩, ofType⟩

section

variable {compiled : List Validator}
  (compiles : compile .builtin (some type.owner) type.rules = .ok compiled)

include compiles

/-- Validators are given whenever they are asked for, and the type stays. -/
theorem exists_run_validators {session : Session Model} (ofType : session.record.type = type) :
    ∃ given after, validators.run session = .ok given after ∧ after.record.type = type := by
  have inForce := inForce_eq compiles ofType
  obtain ⟨cache, record⟩ := record_keeping (session.record.cache.current.getD compiled) session
  refine ⟨_, _, run_validators inForce, ?_⟩
  rw [record]
  exact ofType

/-- Asking for the validators has a trace. -/
theorem traced_validators : Traced type validators := by
  intro session ofType
  obtain ⟨given, after, run, typeKept⟩ := exists_run_validators compiles ofType
  refine ⟨⟨_, .ask run⟩, ?_⟩
  rwa [(Act.run_eq_ok_iff.1 run).2]

/-- Adding a validator has a trace. -/
theorem traced_inject (validator : Validator) : Traced type (inject validator) := by
  intro session ofType
  obtain ⟨given, after, run, typeKept⟩ := exists_run_validators compiles ofType
  refine ⟨⟨_, .add run validator⟩, ?_⟩
  rw [Act.final, inject, EStateM.run_bind, run]
  exact typeKept

/-- The single things that work on a model is made of have traces. Three of them have steps; the
others leave the validators alone. -/
theorem traced_primitives : Primitives (Traced type) where
  toCompositional := compositional_traced type
  looks := traced_ofOutcome
  record := traced_record
  errors := traced_of_keeps Act.keeps_errors
  changesErrors _ := traced_of_keeps (Act.keeps_modify fun _ => rfl)
  observes _ other := traced_of_keeps (keeps_observe other)
  writes name value :=
    traced_of_keeps (keeps_perform rfl rfl : Act.Keeps kept (perform (.set name value)))
  enters _ := traced_of_keeps fun _ => rfl
  validators := traced_validators compiles
  injects := traced_inject compiles
  resets := traced_resetValidators

end

/-! ## Operations -/

/-- Operations are done one after the other from a session on, and these are the steps in which they
have to do with the validators. -/
inductive History : List Operation → Session Model → List CacheStep → Prop
  | nothing (session : Session Model) : History [] session []
  | next {operation : Operation} {rest : List Operation} {session : Session Model}
      {steps others : List CacheStep} (trace : Trace operation.act session steps)
      (later : History rest (operation.act.final session) others) :
      History (operation :: rest) session (steps ++ others)

section

variable {compiled : List Validator}
  (compiles : compile .builtin (some type.owner) type.rules = .ok compiled)

include compiles

/-- Each operation has a trace. -/
theorem Operation.traced (operation : Operation) : Traced type operation.act :=
  (traced_primitives compiles).operation (fun _ _ _ => traced_of_keeps fun _ => rfl) operation

/-- Operations in a row have a history. The type stays, so each operation has a trace where the one
before it ends. -/
theorem exists_history (operations : List Operation) {session : Session Model}
    (ofType : session.record.type = type) : ∃ steps, History operations session steps := by
  induction operations generalizing session with
  | nil => exact ⟨[], .nothing session⟩
  | cons operation rest inductionHypothesis =>
    obtain ⟨⟨steps, trace⟩, typeKept⟩ := operation.traced compiles session ofType
    obtain ⟨others, later⟩ := inductionHypothesis typeKept
    exact ⟨steps ++ others, .next trace later⟩

/-- Operations in a row lead where their history says.

Proof: by induction on the history, each operation leading where its trace says. -/
theorem History.follows {operations : List Operation} {session : Session Model}
    {steps : List CacheStep} (history : History operations session steps) {known : Additions}
    (standing : Standing type compiled known session) :
    Follows type compiled known steps session (runOperations operations session) := by
  induction history generalizing known with
  | nothing session => exact ⟨answers_nil _ _, standing, (List.append_nil _).symm⟩
  | next trace later inductionHypothesis =>
    have follows := trace.follows compiles standing
    exact follows.append (inductionHypothesis follows.standing)

end

end Model

open Model in
/-- The validator cache over whole runs.

Take a model whose rules compile and which keeps no validators yet, as a fresh one, and any
operations on it, one after the other, of which some may stop with a fault: asking for validators,
adding one, forgetting them, validating, assigning, loading, asking what is safe, active or
required, calling methods, entering scenarios and changing observers. They have a history of the
steps in which validators were asked for, added and forgotten, also by observers, methods and passes
inside a pass. And whatever history that is,

* whoever asked for the validators was given what the rules compile to, followed by the validators
  added since they were last compiled, in the order in which they were added;
* so is who asks when all is done;
* the compilations reported are one for each time at which validators were asked for and none were
  kept, that is before the first use and before the first use after each time they were forgotten,
  and each reports the number of validators that the rules compile to.

Proof: each operation has a trace, which is put together from those of its parts, and the steps of a
trace lead where `Trace.follows` says. -/
theorem model_cache_history (type : ModelType) (compiled : List Validator)
    (compiles : compile .builtin (some type.owner) type.rules = .ok compiled)
    (session : Session Model) (ofType : session.record.type = type)
    (fresh : session.record.cache.current = none) (operations : List Operation) :
    (∃ steps, History operations session steps) ∧
    ∀ steps, History operations session steps →
      (∀ earlier given later, steps = earlier ++ .asked given :: later →
        given = compiled ++ addedSince earlier) ∧
      validators.outcome (runOperations operations session) =
        .ok (compiled ++ addedSince steps) ∧
      compilations (runOperations operations session).events =
        compilations session.events ++ List.replicate (Additions.firstUses none steps)
          (.compiled compiled.length (some type.name)) := by
  have standing : Standing type compiled none session := ⟨ofType, fresh⟩
  refine ⟨exists_history compiles operations ofType, fun steps history => ?_⟩
  have follows := history.follows compiles standing
  obtain ⟨after, asked, -⟩ := follows.standing.ask compiles
  exact ⟨follows.answers, (Act.run_eq_ok_iff.1 asked).1, follows.reported⟩

namespace Model

/-- Entries of a diary. Before each pass a validator is added and, after that, all are forgotten. -/
def diaryType : ModelType where
  name := "Diary"
  schema := ⟨[⟨"title", .null, none⟩], by decide⟩
  rules := [.list [.text "title", .text "safe"]]
  formName := .null
  tracesUnsafe := .bool false
  labels := none
  scenarios := none
  before := some ⟨[.inject (Validator.marking [.text "mood"] [] []), .resetValidators], .null⟩
  after := none
  methods := .empty

/-- The entry is validated, then a validator is added, then the entry is validated again and asked
whether its title is safe, and then a validator is added again. -/
def diaryOperations : List Operation := [
  .validate .null (.bool true), .inject (Validator.marking [.text "place"] [] []),
  .validate .null (.bool true), .isSafe (.text "title"),
  .inject (Validator.marking [.text "date"] [] [])]

end Model

open Model in
/-- The diary's rules are compiled before the first pass, before its scenarios are worked out, since
an observer made the model forget, and once more in the second pass; in the end only the validator
added after that stands behind the one they compile to. -/
theorem model_cache_history_diary :
    let session := (fresh diaryType (.text "default")).session
    ∃ steps, History diaryOperations session steps ∧
      (addedSince steps).map ValidatorOf.attributeNames = [["date"]] ∧
      Additions.firstUses none steps = 3 ∧
      (compilations (runOperations diaryOperations session).events).map Event.message =
        List.replicate 3 "Compiled 1 validator(s) for Diary" := by
  intro session
  have compiles : compile .builtin (some diaryType.owner) diaryType.rules =
      .ok [Validator.marking [.text "title"] [] []] := rfl
  obtain ⟨⟨steps, history⟩, law⟩ := model_cache_history diaryType _ compiles session rfl rfl
    diaryOperations
  obtain ⟨-, asked, reported⟩ := law steps history
  have given : (validators.outcome (runOperations diaryOperations session)).toOption.map
      (·.map ValidatorOf.attributeNames) = some [["title"], ["date"]] := by decide +kernel
  have reports : (compilations (runOperations diaryOperations session).events).map Event.message =
      List.replicate 3 "Compiled 1 validator(s) for Diary" := by decide +kernel
  refine ⟨steps, history, ?_, ?_, reports⟩
  · rw [asked] at given
    exact (List.cons.inj (Option.some.inj given)).2
  · have lengths := congrArg List.length reports
    rw [reported] at lengths
    simpa [compilations, session, Model.session] using lengths

end RecordValidation
