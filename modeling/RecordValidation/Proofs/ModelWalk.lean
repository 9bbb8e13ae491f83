import RecordValidation.Model.Validation
import RecordValidation.Proofs.PassWalk

/-!
# Walking through work on a model

`Model.Operation` lists what can be asked of a model from outside: validation, with all that
observers, methods called by inline checks and passes inside of a pass do, mass assignment, and the
questions that are answered from the scenarios.

However much is done, it is put together from a few single things, which `Model.Primitives` lists:
looking at values, at the model and at its errors, changing the errors, observing, writing an
attribute, entering a scenario, asking for validators, adding one and forgetting them. What holds of
each of these, and of pieces of work in a row, holds of every operation (`Primitives.operation`).
In particular what single things preserve is preserved over whole runs
(`Primitives.invariant_runOperations`).
-/

namespace RecordValidation

/-- Whether an event reports a compilation. -/
def Event.isCompilation : Event → Bool
  | compiled .. => true
  | _ => false

namespace Act

variable {ρ : Type}

/-- Work that begins in a session with a property leaves one with it, whether or not it stops. -/
def Preserves (property : Session ρ → Prop) ⦃α : Type⦄ (work : Act ρ α) : Prop :=
  ∀ session, property session → property (work.final session)

/-- A property is preserved by work that preserves it piece by piece. If the first piece stops, the
session it leaves is the one that is left. -/
theorem compositional_preserves (property : Session ρ → Prop) :
    Compositional (Preserves property) where
  pure _ _ held := held
  throw _ _ _ held := held
  bind := by
    intro α β first next before after session held
    rw [final_bind]
    cases first.outcome session with
    | ok value => exact after value _ (before session held)
    | error fault => exact before session held

/-- Looking at values preserves everything. -/
theorem preserves_ofOutcome {property : Session ρ → Prop} {α : Type} (outcome : Outcome α) :
    Preserves property (ofOutcome outcome : Act ρ α) := by
  intro session held
  cases outcome <;> exact held

end Act

namespace Model

/-- A compositional property that holds of the single things that work on a model is made of. -/
structure Primitives (holds : ∀ ⦃α : Type⦄, Act Model α → Prop) : Prop extends
    Act.Compositional holds where
  looks : ∀ {α : Type} (outcome : Outcome α), holds (Act.ofOutcome outcome : Act Model α)
  record : holds (Act.record : Act Model Model)
  errors : holds (Act.errors : Act Model ErrorBag)
  changesErrors : ∀ change, holds (Act.modifyErrors change : Act Model Unit)
  observes : ∀ event : Event, event.isCompilation = false →
    holds (Act.observe event : Act Model Unit)
  writes : ∀ name value, holds (perform (.set name value))
  enters : ∀ scenario, holds (enter scenario)
  validators : holds validators
  injects : ∀ validator, holds (inject validator)
  resets : holds resetValidators

namespace Primitives

variable {holds : ∀ ⦃α : Type⦄, Act Model α → Prop}

/-- Whatever a model is asked for has the property: the questions look at the model and at its
errors. -/
theorem offers (primitives : Primitives holds) (own : ModelType)
    (invoke : String → Value → Value → Act Model Value) : (hostWith own invoke).Offers holds where
  toCompositional := primitives.toCompositional
  record := primitives.record
  read _ _ := primitives.looks _
  label _ _ _ _ := primitives.looks _
  asSequence _ := primitives.looks _
  errors _ := primitives.errors

/-- Performing an action of a script has the property. There is one primitive for each action,
except that changes of the errors look at the name first. -/
theorem perform (primitives : Primitives holds) (action : Action) : holds (perform action) := by
  have closed := primitives.toCompositional
  cases action with
  | set name value => exact primitives.writes name value
  | addError name message =>
    exact closed.addError primitives.looks primitives.changesErrors name message
  | clearErrors name => exact closed.clearErrors primitives.looks primitives.changesErrors name
  | enter scenario => exact primitives.enters scenario
  | inject validator => exact primitives.injects validator
  | resetValidators => exact primitives.resets
  | note text => exact primitives.observes _ rfl
  | noteErrors => exact closed.bind primitives.errors fun _ => primitives.observes _ rfl
  | raise message => exact closed.throw _ trivial

/-- Working out the scenarios of a model has the property. They are resolved from its validators,
declared by its type, or the one on top of the other. -/
theorem scenarioMap (primitives : Primitives holds) : holds scenarioMap := by
  have resolved : holds resolvedScenarios :=
    primitives.bind primitives.validators fun _ => primitives.looks _
  refine primitives.bind primitives.record fun model => ?_
  split
  · exact resolved
  · rename_i declared _
    cases declared.onTop with
    | true =>
      exact primitives.bind (primitives.toCompositional.map _ resolved) fun _ =>
        primitives.looks _
    | false => exact primitives.bind (primitives.pure []) fun _ => primitives.looks _

/-- Telling what is safe has the property. -/
theorem safeAttributes (primitives : Primitives holds) : holds safeAttributes :=
  primitives.bind primitives.scenarioMap fun _ =>
    primitives.bind primitives.record fun _ => primitives.looks _

/-- Telling what is active has the property. -/
theorem activeAttributes (primitives : Primitives holds) : holds activeAttributes :=
  primitives.bind primitives.scenarioMap fun _ =>
    primitives.bind primitives.record fun _ => primitives.looks _

/-- Telling which validators are active has the property. -/
theorem activeFor (primitives : Primitives holds) (name : Value) : holds (activeFor name) :=
  primitives.bind primitives.validators fun _ =>
    primitives.bind primitives.record fun _ => primitives.looks _

/-- Reporting a refused assignment has the property. The observers are told one after the other,
until one stops; the induction is on those that are left. -/
theorem reportUnsafe (primitives : Primitives holds) (name value : Value) :
    holds (reportUnsafe name value) := by
  have tells (typeName : String) (observers : List UnsafeObserver) :
      holds (notify typeName name value observers) := by
    induction observers with
    | nil => exact primitives.pure ()
    | cons observer rest inductionHypothesis =>
      refine primitives.bind (primitives.observes _ rfl) fun _ => ?_
      split
      · exact primitives.throw _ trivial
      · exact inductionHypothesis
  refine primitives.bind primitives.record fun model => ?_
  by_cases traces : model.type.tracesUnsafe.truthy = true
  · simp only [traces, ↓reduceIte]
    exact primitives.bind (primitives.observes _ rfl) fun _ => tells _ _
  · simpa only [traces, Bool.false_eq_true, ↓reduceIte] using tells _ _

/-- Assigning values of which it is known which may be written has the property. The induction is on
the entries, each of which is written or refused. -/
theorem assign (primitives : Primitives holds) (own : ModelType)
    (values permitted safeOnly : Value) :
    holds (assign (plainHost own) values permitted safeOnly (some Model.reportUnsafe)) := by
  have refuses : ∀ name value,
      holds (Assignment.refusal safeOnly (some Model.reportUnsafe) name value) := by
    intro name value
    simp only [Assignment.refusal]
    split
    · exact primitives.reportUnsafe name value
    · exact primitives.pure ()
  refine primitives.bind (primitives.looks _) fun allowed => ?_
  refine primitives.bind (primitives.looks _) fun entries => ?_
  induction entries with
  | nil => exact primitives.pure []
  | cons entry rest inductionHypothesis =>
    unfold Assignment.writeEntries
    split
    · refine primitives.bind (primitives.writes _ _) fun _ => ?_
      exact primitives.bind inductionHypothesis fun _ => primitives.pure _
    · exact primitives.bind (refuses _ _) fun _ => inductionHypothesis

/-- Assigning values has the property. What may be written is worked out from the scenarios or is
the names of all attributes, and from there on the two ways are one. -/
theorem setAttributes (primitives : Primitives holds) (values safeOnly : Value) :
    holds (setAttributes values safeOnly) := by
  have closed := primitives.toCompositional
  have assigns : ∀ permitted, holds (do
      let type := (← Act.record).type
      let _ ← RecordValidation.assign (plainHost type) values (.list permitted) safeOnly
        (some Model.reportUnsafe) : Act Model Unit) := by
    intro permitted
    refine closed.bind primitives.record fun model => ?_
    exact closed.bind (primitives.assign _ _ _ _) fun _ => closed.pure ()
  unfold Model.setAttributes
  cases safeOnly.truthy with
  | true =>
    exact closed.bind (closed.map _ primitives.safeAttributes) fun permitted => assigns permitted
  | false =>
    exact closed.bind (closed.map _ primitives.record) fun permitted => assigns permitted

/-- Loading a form has the property, since it is looking up the part of the form that belongs to the
model and assigning that. -/
theorem load (primitives : Primitives holds) (data formName : Value) :
    holds (load data formName) := by
  refine primitives.bind primitives.record fun model => ?_
  refine primitives.bind (primitives.looks _) fun own => ?_
  split
  · exact primitives.bind (primitives.setAttributes _ _) fun _ => primitives.pure true
  · exact primitives.pure false

/-- Calling a method of a model has the property, if validating has it. The premise is there because
a method may validate, and a pass may call methods. -/
theorem invoke (primitives : Primitives holds) (own : ModelType)
    {validate : Value → Value → Act Model Bool}
    (validates : ∀ names clears, holds (validate names clears))
    (method : String) (target params : Value) :
    holds (invoke own validate method target params) := by
  have closed := primitives.toCompositional
  unfold Model.invoke
  split
  · exact (primitives.offers own _).callOnParams _ target params fun _ _ _ action _ =>
      primitives.perform action
  · unfold invokeCommon
    split
    · exact closed.bind (primitives.perform (.addError target params)) fun _ => closed.pure _
    · exact closed.bind (primitives.writes target params) fun _ => closed.pure _
    · exact closed.bind (primitives.writes target params) fun _ => closed.pure _
    · exact closed.bind (primitives.reportUnsafe target params) fun _ => closed.pure _
    · exact closed.bind primitives.record fun _ =>
        closed.bind (primitives.looks _) fun _ => closed.pure _
    · exact closed.bind (primitives.setAttributes target params) fun _ => closed.pure _
    · exact closed.map _ (primitives.load target params)
    · exact closed.map _ (validates target params)
    · exact closed.throw _ trivial

/-- What a model does in a pass has the property, if calling its methods has it. All the rest is
among the single things that work on a model is made of. -/
theorem serves (primitives : Primitives holds) (own : ModelType)
    {invoke : String → Value → Value → Act Model Value}
    (invokes : ∀ method target params, holds (invoke method target params)) :
    (hostWith own invoke).Serves holds where
  toOffers := primitives.offers own invoke
  looks := primitives.looks
  asksErrors := primitives.errors
  changesErrors := primitives.changesErrors
  callsOff _ := primitives.observes _ rfl
  concludes _ _ _ := primitives.observes _ rfl
  writes := primitives.writes
  performs := primitives.perform
  invokes := invokes

/-- Validating a model, to whatever depth.

Proof: by induction on the depth. The property holds of all that a pass does, and of calling a
method because it holds of validating to the depth below. -/
theorem validateTo (primitives : Primitives holds) (depth : Nat) (names clears : Value) :
    holds (validateTo depth names clears) := by
  induction depth generalizing names clears with
  | zero => exact primitives.looks (.error _)
  | succ depth inductionHypothesis =>
    refine primitives.bind primitives.validators fun _ => ?_
    refine primitives.bind primitives.record fun model => ?_
    have serves := primitives.serves model.type
      (primitives.invoke model.type inductionHypothesis)
    exact serves.run primitives.scenarioMap
      (primitives.bind primitives.record fun _ => primitives.pure _)

end Primitives

/-! ## Operations -/

/-- Something asked of a model from outside. -/
inductive Operation
  | validators
  | inject (validator : Validator)
  | resetValidators
  | validate (names clears : Value)
  | setAttributes (values safeOnly : Value)
  | load (data formName : Value)
  | scenarios
  | safeAttributes
  | activeAttributes
  | activeFor (name : Value)
  | isSafe (name : Value)
  | isActive (name : Value)
  | isRequired (name : Value)
  /-- Call a method that every model or one of the type has. -/
  | invoke (method : String) (target params : Value)
  /-- Do what a script can do, such as writing an attribute or entering a scenario. -/
  | perform (action : Action)
  /-- Have other observers from now on. -/
  | observe (before after : List Hook) (onUnsafe : List UnsafeObserver)

/-- Do what is asked. -/
def Operation.act : Operation → Act Model Unit
  | validators => do let _ ← Model.validators
  | inject validator => Model.inject validator
  | resetValidators => Model.resetValidators
  | validate names clears => do let _ ← Model.validate names clears
  | setAttributes values safeOnly => Model.setAttributes values safeOnly
  | load data formName => do let _ ← Model.load data formName
  | scenarios => do let _ ← scenarioMap
  | safeAttributes => do let _ ← Model.safeAttributes
  | activeAttributes => do let _ ← Model.activeAttributes
  | activeFor name => do let _ ← Model.activeFor name
  | isSafe name => do let _ ← Model.isSafe name
  | isActive name => do let _ ← Model.isActive name
  | isRequired name => do let _ ← Model.isRequired name
  | invoke method target params => do
    let own := (← Act.record).type
    let _ ← (host own).invoke method target params
  | perform action => Model.perform action
  | observe before after onUnsafe => do
    Act.setRecord { (← Act.record) with before, after, onUnsafe }

/-- The session that operations leave which are done one after the other, whether or not some of
them stop. -/
def runOperations (operations : List Operation) (session : Session Model) : Session Model :=
  operations.foldl (fun reached operation => operation.act.final reached) session

/-- Every operation has the property, if having other observers has it as well. That is none of the
single things, as it changes the model from outside. -/
theorem Primitives.operation {holds : ∀ ⦃α : Type⦄, Act Model α → Prop}
    (primitives : Primitives holds)
    (observers : ∀ before after onUnsafe, holds (Operation.observe before after onUnsafe).act)
    (operation : Operation) : holds operation.act := by
  have done {α : Type} {work : Act Model α} (held : holds work) :
      holds (do let _ ← work : Act Model Unit) :=
    primitives.bind held fun _ => primitives.pure ()
  have asked {α β : Type} {work : Act Model α} {answer : α → β} (held : holds work) :
      holds (do let _ ← (do return answer (← work) : Act Model β) : Act Model Unit) :=
    done (primitives.bind held fun _ => primitives.pure _)
  cases operation with
  | validators => exact done primitives.validators
  | inject validator => exact primitives.injects validator
  | resetValidators => exact primitives.resets
  | validate names clears => exact done (primitives.validateTo _ names clears)
  | setAttributes values safeOnly => exact primitives.setAttributes values safeOnly
  | load data formName => exact done (primitives.load data formName)
  | scenarios => exact done primitives.scenarioMap
  | safeAttributes => exact done primitives.safeAttributes
  | activeAttributes => exact done primitives.activeAttributes
  | activeFor name => exact done (primitives.activeFor name)
  | isSafe name => exact asked primitives.safeAttributes
  | isActive name => exact asked primitives.activeAttributes
  | isRequired name => exact asked (primitives.activeFor name)
  | invoke method target params =>
    refine primitives.bind primitives.record fun model => done ?_
    exact primitives.invoke model.type (primitives.validateTo _) method target params
  | perform action => exact primitives.perform action
  | observe before after onUnsafe => exact observers before after onUnsafe

/-- What the single things preserve, and having other observers, is preserved over whole runs.

Proof: by induction on the operations, each of which preserves it. -/
theorem Primitives.invariant_runOperations {property : Session Model → Prop}
    (primitives : Primitives (Act.Preserves property))
    (observers : ∀ before after onUnsafe,
      Act.Preserves property (Operation.observe before after onUnsafe).act)
    (operations : List Operation) {session : Session Model} (held : property session) :
    property (runOperations operations session) := by
  induction operations generalizing session with
  | nil => exact held
  | cons operation rest inductionHypothesis =>
    exact inductionHypothesis (primitives.operation observers operation session held)

end Model

end RecordValidation
