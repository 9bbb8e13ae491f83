import Mathlib.Data.List.TakeWhile
import RecordValidation.Proofs.CacheHistory
import RecordValidation.Proofs.Lifecycle
import RecordValidation.Proofs.ScenarioIsolation

/-!
# Which validators a pass over a model works with

A pass over a model begins with the validators in force, and works out its scenarios once the
observers before it are done. In between these may add validators and forget them, so the scenarios
may be those of other validators than the ones that run. `model_pass_lists` tells both lists from
the actions of the observers, and that they are one list unless an observer makes the model forget.

`forgotten_not_checked` shows what becomes of it if one does: a validator that the model holds when
its observers are done, and whose attribute the pass checks, does not run.
-/

namespace RecordValidation

/-- The validators that actions add, in order. -/
def injections (actions : List Action) : List Validator := actions.filterMap ActionOf.injected?

/-! ## What actions make of a cache -/

namespace ValidatorCache

/-- The cache after an action, where a validator is added to what the rules compile to if nothing is
kept. -/
def afterAction (compiled : List Validator) (cache : ValidatorCache) : Action → ValidatorCache
  | .inject validator => cache.keep (cache.current.getD compiled ++ [validator])
  | .resetValidators => cache.forget
  | _ => cache

/-- The cache after some actions. -/
def afterActions (compiled : List Validator) (cache : ValidatorCache) (actions : List Action) :
    ValidatorCache :=
  actions.foldl (afterAction compiled) cache

variable {compiled : List Validator} {cache : ValidatorCache}

/-- The first action comes first. -/
theorem afterActions_cons (action : Action) (rest : List Action) :
    cache.afterActions compiled (action :: rest) =
      (cache.afterAction compiled action).afterActions compiled rest := rfl

/-- The cache after actions in a row is the one that the later make of what the earlier leave. -/
theorem afterActions_append (earlier later : List Action) :
    cache.afterActions compiled (earlier ++ later) =
      (cache.afterActions compiled earlier).afterActions compiled later :=
  List.foldl_append

/-- Actions that forget nothing put what they add behind what is there. The induction is on the
actions, each of which adds a validator or leaves those there are. -/
theorem current_afterActions {actions : List Action}
    (stays : ∀ action ∈ actions, action.resets = false) :
    (cache.afterActions compiled actions).current.getD compiled =
      cache.current.getD compiled ++ injections actions := by
  induction actions generalizing cache with
  | nil => exact (List.append_nil _).symm
  | cons action rest inductionHypothesis =>
    obtain ⟨first, others⟩ := List.forall_mem_cons.1 stays
    rw [afterActions_cons, inductionHypothesis others]
    cases action with
    | resetValidators => cases first
    | inject validator => simp [afterAction, keep, injections, ActionOf.injected?]
    | _ => rfl

/-- After the last time the validators are forgotten, what is added stands behind what the rules
compile to. What the earlier actions added is gone, so nothing has to be known of them. -/
theorem current_afterActions_of_reset {earlier later : List Action}
    (stays : ∀ action ∈ later, action.resets = false) :
    (cache.afterActions compiled (earlier ++ .resetValidators :: later)).current.getD compiled =
      compiled ++ injections later := by
  have none : ((cache.afterActions compiled earlier).afterAction compiled
      .resetValidators).current = none := current_forget _
  rw [afterActions_append, afterActions_cons, current_afterActions stays, none]
  rfl

/-- What was forgotten once stays as it was. Forgetting adds at the end of what was forgotten
before, so no place there changes. -/
theorem forgotten_afterActions {actions : List Action} {place : Nat}
    (there : place < cache.forgotten.length) :
    (cache.afterActions compiled actions).forgotten[place]? = cache.forgotten[place]? := by
  induction actions generalizing cache with
  | nil => rfl
  | cons action rest inductionHypothesis =>
    rw [afterActions_cons]
    cases action with
    | resetValidators =>
      have grown : place < cache.forget.forgotten.length ∧
          cache.forget.forgotten[place]? = cache.forgotten[place]? := by
        unfold forget
        split
        · exact ⟨by simp; omega, List.getElem?_append_left there⟩
        · exact ⟨there, rfl⟩
      exact (inductionHypothesis grown.1).trans grown.2
    | inject validator => exact inductionHypothesis there
    | _ => exact inductionHypothesis there

/-- Who began with the validators that are kept finds them again after some actions, with what was
added to them until they were forgotten.

Proof: by induction on the actions. As long as nothing is forgotten the list that is kept grows;
once it is forgotten, it stays in its place. -/
theorem atGeneration_afterActions {held : List Validator} (actions : List Action)
    (keeps : cache.current = some held) :
    let after := cache.afterActions compiled actions
    (after.keep (after.current.getD compiled)).atGeneration cache.generation =
      held ++ injections (actions.takeWhile fun action => !action.resets) := by
  induction actions generalizing cache held with
  | nil =>
    have same : cache.afterActions compiled [] = cache := rfl
    simp only [same, keeps, atGeneration_keep]
    exact (List.append_nil held).symm
  | cons action rest inductionHypothesis =>
    cases action with
    | resetValidators =>
      have gone : cache.forget.forgotten = cache.forgotten ++ [held] := by simp [forget, keeps]
      have found : (cache.forget.afterActions compiled rest).forgotten[cache.generation]? =
          some held := by
        rw [forgotten_afterActions (by simp [gone, generation]), gone, generation]
        simp
      change (((cache.forget.afterActions compiled rest).forgotten[cache.generation]?).getD _) = _
      rw [found]
      simp [injections, ActionOf.resets]
    | inject validator =>
      have grown : (cache.afterAction compiled (.inject validator)).current =
          some (held ++ [validator]) := by simp [afterAction, keep, keeps]
      refine (inductionHypothesis grown).trans ?_
      simp [injections, ActionOf.resets, ActionOf.injected?]
    | _ => exact inductionHypothesis keeps

end ValidatorCache

/-! ## What observers make of the cache of a model -/

namespace Model

/-- Keeping the validators in force changes nothing about the cache if they are kept already. -/
theorem cache_keeping {session : Session Model} {active : List Validator}
    (inForce : session.record.inForce = .ok active) :
    (keeping active session).record.cache = session.record.cache.keep active := by
  unfold Model.inForce at inForce
  unfold keeping
  cases kept : session.record.cache.current with
  | none => rfl
  | some held =>
    rw [kept] at inForce
    obtain rfl := Except.ok.inj inForce
    change session.record.cache = _
    rw [ValidatorCache.keep, ← kept]

section

variable {type : ModelType} {compiled : List Validator}
  (compiles : compile .builtin (some type.owner) type.rules = .ok compiled)

include compiles

/-- An action that is done leaves the type of a model, and of its cache what it makes of it. Two of
the actions have to do with the cache; the others are known to leave it, and here only that is used
of them. -/
theorem cache_of_performed {action : Action} {session after : Session Model}
    (ofType : session.record.type = type) (done : (perform action).run session = .ok () after) :
    after.record.type = type ∧
      after.record.cache = session.record.cache.afterAction compiled action := by
  have leaves : action.injected? = none → action.resets = false →
      after.record.type = type ∧ after.record.cache = session.record.cache := by
    intro adds forgets
    have left := keeps_perform adds forgets session
    rw [(Act.run_eq_ok_iff.1 done).2] at left
    simp only [kept, Prod.mk.injEq] at left
    exact ⟨left.1.trans ofType, left.2.1⟩
  cases action with
  | inject validator =>
    have inForce := inForce_eq compiles ofType
    obtain ⟨cache, record⟩ := record_keeping (session.record.cache.current.getD compiled) session
    change (inject validator).run session = .ok () after at done
    rw [inject, EStateM.run_bind, run_validators inForce] at done
    cases done
    refine ⟨?_, ?_⟩
    · change (keeping _ session).record.type = type
      rw [record]
      exact ofType
    · change (keeping _ session).record.cache.keep _ = _
      rw [cache_keeping inForce]
      rfl
  | resetValidators =>
    cases done
    exact ⟨ofType, rfl⟩
  | _ => exact leaves rfl rfl

/-- Actions that are done leave of the cache what they make of it. -/
theorem cache_of_allPerformed {actions : List Action} {session after : Session Model}
    (ofType : session.record.type = type)
    (done : (forM actions perform).run session = .ok () after) :
    after.record.type = type ∧
      after.record.cache = session.record.cache.afterActions compiled actions := by
  induction actions generalizing session with
  | nil =>
    cases done
    exact ⟨ofType, rfl⟩
  | cons action rest inductionHypothesis =>
    rw [List.forM_cons, EStateM.run_bind] at done
    cases first : (perform action).run session with
    | error fault stopped =>
      rw [first] at done
      cases done
    | ok result middle =>
      rw [first] at done
      obtain ⟨typeKept, cacheKept⟩ := cache_of_performed compiles ofType first
      obtain ⟨typeLeft, cacheLeft⟩ := inductionHypothesis typeKept done
      refine ⟨typeLeft, cacheLeft.trans ?_⟩
      rw [cacheKept]
      rfl

/-- Observers that are done leave of the cache what their actions make of it. The actions of all
hooks are one list, which is split where the first hook ends. -/
theorem cache_of_observed {host : Host Model} (performs : host.perform = perform)
    {hooks : List Hook} {session after : Session Model} (ofType : session.record.type = type)
    (observed : Pass.Taken host (Pass.observing hooks) session (.ok ()) after) :
    after.record.type = type ∧
      after.record.cache =
        session.record.cache.afterActions compiled (hooks.flatMap Hook.actions) := by
  induction hooks generalizing session with
  | nil =>
    cases observed
    exact ⟨ofType, rfl⟩
  | cons hook rest inductionHypothesis =>
    obtain ⟨middle, first, others⟩ := observed.of_cons
    have performed := Pass.performed_of_observed first
    rw [performs] at performed
    obtain ⟨typeKept, cacheKept⟩ := cache_of_allPerformed compiles ofType performed
    obtain ⟨typeLeft, cacheLeft⟩ := inductionHypothesis typeKept others
    refine ⟨typeLeft, cacheLeft.trans ?_⟩
    rw [cacheKept, List.flatMap_cons, ValidatorCache.afterActions_append]

end

/-- The scenarios that follow from the validators in force are worked out by asking for these.
Resolving comes after asking and may stop, and what asking has kept stays kept. -/
theorem run_scenarioMap_of_derived {session : Session Model} {active : List Validator}
    (derived : session.record.type.scenarios = none)
    (inForce : session.record.inForce = .ok active) :
    scenarioMap.run session =
      (Act.ofOutcome (resolve ScenarioMap.defaultScenario active)).run
        (keeping active session) := by
  rw [scenarioMap, EStateM.run_bind, Act.run_record]
  simp only [derived, resolvedScenarios, EStateM.run_bind, run_validators inForce]

/-- What a model of a type offers in a pass in which passes inside each other go to a depth. -/
def passHost (type : ModelType) (depth : Nat) : Host Model :=
  hostWith type (invoke type (validateTo depth))

/-- The pass that a session begins whose model then keeps the validators in force. -/
def passFrom (held : List Validator) (session : Session Model) (names clears : Value) :
    Pass Model :=
  let begun := (keeping held session).record
  begun.pass begun.cache.generation names clears

section

variable {session opened : Session Model} {compiled held : List Validator} {names clears : Value}

/-- A model is validated in the pass that it begins. Depth is what remains for passes inside of it,
which methods may begin. -/
theorem run_validateTo (depth : Nat) (inForce : session.record.inForce = .ok held) :
    (validateTo (depth + 1) names clears).run session =
      ((passFrom held session names clears).run
        (passHost (keeping held session).record.type depth)).run (keeping held session) := by
  rw [validateTo, EStateM.run_bind, run_validators inForce]
  rfl

/-- Where the validators that were in force when a pass began are looked for after some actions,
they are found with what was added until they were forgotten. A pass remembers the generation of the
validators it began with. If they are forgotten on the way, they are found where forgotten ones are
kept, as they were then. -/
theorem run_validators_passFrom {actions : List Action}
    (inForce : session.record.inForce = .ok held)
    (consults : opened.record.inForce = .ok (opened.record.cache.current.getD compiled))
    (left : opened.record.cache =
      (keeping held session).record.cache.afterActions compiled actions) :
    let settled := keeping (opened.record.cache.current.getD compiled) opened
    (passFrom held session names clears).validators.run settled =
      .ok (held ++ injections (actions.takeWhile fun action => !action.resets)) settled := by
  intro settled
  have kept : (keeping held session).record.cache.current = some held := by
    rw [cache_keeping inForce]
    rfl
  have found : settled.record.cache.atGeneration (keeping held session).record.cache.generation =
      held ++ injections (actions.takeWhile fun action => !action.resets) := by
    change (keeping _ opened).record.cache.atGeneration _ = _
    rw [cache_keeping consults, left]
    exact ValidatorCache.atGeneration_afterActions actions kept
  exact congrArg (EStateM.Result.ok · settled) found

end

end Model

/-- A pass that works out its scenarios from some validators and after that finds others checks the
record with the scenarios of the former and with the latter. Both sides settle the same turns, by
`run_settle_of_lists`, and differ in nothing after that. -/
theorem Pass.run_checkRecord_of_lists {ρ : Type} (host : Host ρ) {pass : Pass ρ} {default : Value}
    {opened settled : Session ρ} {consulted listed : List Validator}
    (worksOut : pass.scenarioMap.run opened =
      (Act.ofOutcome (resolve default consulted)).run settled)
    (finds : pass.validators.run settled = .ok listed settled) :
    (pass.checkRecord host).run opened =
      (((pass.resolving default consulted).withValidators listed).checkRecord host).run
        settled := by
  have settles := run_settle_of_lists worksOut finds
  have settlesBoth : ((pass.resolving default consulted).withValidators listed).settle.run settled =
      (Act.ofOutcome (pass.turnsIn (resolve default consulted) listed)).run settled :=
    run_settle_of_lists rfl rfl
  rw [checkRecord_eq, checkRecord_eq, EStateM.run_bind, EStateM.run_bind, settles, settlesBoth]
  rfl

/-- A pass that works out its scenarios from some validators and after that finds others reports
what it finds with the scenarios of the former and with the latter. -/
theorem Pass.run_checkAndReport_of_lists {ρ : Type} (host : Host ρ) {pass : Pass ρ}
    {default : Value} {opened settled : Session ρ} {consulted listed : List Validator}
    (worksOut : pass.scenarioMap.run opened =
      (Act.ofOutcome (resolve default consulted)).run settled)
    (finds : pass.validators.run settled = .ok listed settled) :
    (pass.checkAndReport host).run opened =
      (((pass.resolving default consulted).withValidators listed).checkAndReport host).run
        settled := by
  unfold checkAndReport
  rw [EStateM.run_bind, EStateM.run_bind, run_checkRecord_of_lists host worksOut finds]
  rfl

open Model in
/-- Which validators a pass over a model works with.

Take a model whose scenarios follow from its validators and whose rules compile, and let its
observers be done before a pass, with whatever actions, without one of them calling the pass off.
The pass begins with the validators in force and goes on from where the observers leave the model.
Then

* the scenarios it consults are those of the validators that the model gives to whoever asks for
  them at that point, which are what the rules compile to and the validators added since the model
  was last made to forget, if it was;
* the validators that it selects from and runs are those it began with and the ones added until the
  model was first made to forget;
* so if the model is not made to forget, it is one list: the validators that the pass began with and
  all that the observers added.

Proof: the actions make of the cache what `ValidatorCache.afterActions` says, which tells what is
kept when the observers are done and what is found in the place of the list that was kept when the
pass began. -/
theorem model_pass_lists (session opened : Session Model) (compiled held : List Validator)
    (depth : Nat) (names clears : Value)
    (derived : session.record.type.scenarios = none)
    (compiles : compile .builtin (some session.record.type.owner) session.record.type.rules =
      .ok compiled)
    (inForce : session.record.inForce = .ok held) :
    let begun := keeping held session
    let host := passHost begun.record.type depth
    let pass := passFrom held session names clears
    let actions := pass.before.flatMap Hook.actions
    let ran := held ++ injections (actions.takeWhile fun action => !action.resets)
    Pass.Taken host (Pass.observing pass.before) (Pass.start pass.clears begun) (.ok ()) opened →
    (∀ hook ∈ pass.before, hook.answer ≠ .bool false) →
    ∃ consulted, validators.outcome opened = .ok consulted ∧
      (validateTo (depth + 1) names clears).run session =
        (((pass.resolving ScenarioMap.defaultScenario consulted).withValidators
          ran).checkAndReport host).run (keeping consulted opened) ∧
      (∀ earlier later, actions = earlier ++ .resetValidators :: later →
        (∀ action ∈ later, action.resets = false) → consulted = compiled ++ injections later) ∧
      ((∀ action ∈ actions, action.resets = false) →
        ran = consulted ∧ consulted = held ++ injections actions) := by
  intro begun host pass actions ran observed goesOn
  have ofType : (Pass.start pass.clears begun).record.type = session.record.type := by
    obtain ⟨cache, record⟩ := record_keeping held session
    change (keeping held session).record.type = _
    rw [record]
  have kept : begun.record.cache = session.record.cache.keep held := cache_keeping inForce
  obtain ⟨typeLeft, cacheLeft⟩ := cache_of_observed compiles rfl ofType observed
  change opened.record.cache = begun.record.cache.afterActions compiled actions at cacheLeft
  have consults : opened.record.inForce = .ok (opened.record.cache.current.getD compiled) :=
    inForce_eq compiles typeLeft
  refine ⟨_, (Act.run_eq_ok_iff.1 (run_validators consults)).1, ?_, ?_, ?_⟩
  · have worksOut : pass.scenarioMap.run opened = _ :=
      run_scenarioMap_of_derived (typeLeft ▸ derived) consults
    have finds : pass.validators.run _ = .ok ran _ :=
      run_validators_passFrom inForce consults cacheLeft
    rw [run_validateTo depth inForce, Pass.run_of_opened observed goesOn]
    exact Pass.run_checkAndReport_of_lists host worksOut finds
  · intro earlier later split stays
    rw [cacheLeft, split, ValidatorCache.current_afterActions_of_reset stays]
  · intro stays
    have whole : actions.takeWhile (fun action => !action.resets) = actions :=
      List.takeWhile_eq_self_iff.2 fun action performed => by simp [stays action performed]
    have one : opened.record.cache.current.getD compiled = held ++ injections actions := by
      rw [cacheLeft, ValidatorCache.current_afterActions stays, kept]
      rfl
    rw [one]
    exact ⟨congrArg (held ++ injections ·) whole, rfl⟩

namespace Model

/-- Forms without rules. -/
def formType : ModelType where
  name := "Form"
  schema := ⟨[⟨"x", .text "a", none⟩], by decide⟩
  rules := []
  formName := .null
  tracesUnsafe := .bool false
  labels := none
  scenarios := none
  before := none
  after := none
  methods := .empty

/-- A form with an observer that performs some actions before each pass. -/
def formSession (actions : List Action) : Session Model :=
  { fresh formType ScenarioMap.defaultScenario with before := [⟨actions, .null⟩] }.session

/-- A validator that refuses whatever the form holds. -/
def formRefusal : Validator :=
  { Validator.marking [.text "x"] [] [] with check := .alwaysFails }

/-- What the form offers in a pass that is not inside of another. -/
def formHost : Host Model := passHost formType (depthLimit - 1)

/-- The pass over a form that has just compiled its rules. -/
def formPass (actions : List Action) : Pass Model :=
  passFrom [] (formSession actions) .null (.bool true)

end Model

open Model in
/-- An observer that adds the refusal adds it to what runs and to what the scenarios follow from.
One that makes the form forget before it does so only adds it to the latter. -/
theorem model_pass_lists_form :
    let worksWith (actions : List Action) (consulted ran : List Validator) := ∃ opened,
      validators.outcome opened = .ok consulted ∧
        (validate .null (.bool true)).run (formSession actions) =
          ((((formPass actions).resolving ScenarioMap.defaultScenario consulted).withValidators
            ran).checkAndReport formHost).run (keeping consulted opened)
    worksWith [.inject formRefusal] [formRefusal] [formRefusal] ∧
      worksWith [.resetValidators, .inject formRefusal] [formRefusal] [] := by
  intro worksWith
  have goesOn : ∀ actions, ∀ hook ∈ (formPass actions).before, hook.answer ≠ .bool false := by
    intro actions
    have hooks : (formPass actions).before = [⟨[], .bool true⟩, ⟨actions, .null⟩] := rfl
    simp [hooks]
  constructor
  · obtain ⟨consulted, asked, runs, -, one⟩ := model_pass_lists (formSession [.inject formRefusal])
      _ [] [] (depthLimit - 1) .null (.bool true) rfl rfl rfl (.next rfl (.next rfl (.nothing _)))
      (goesOn _)
    obtain ⟨-, rfl⟩ := one (by decide)
    exact ⟨_, asked, runs⟩
  · obtain ⟨consulted, asked, runs, last, -⟩ := model_pass_lists
      (formSession [.resetValidators, .inject formRefusal])
      _ [] [] (depthLimit - 1) .null (.bool true) rfl rfl rfl (.next rfl (.next rfl (.nothing _)))
      (goesOn _)
    obtain rfl := last [] [.inject formRefusal] rfl (by decide)
    exact ⟨_, asked, runs⟩

open Model in
/-- An observer makes the form forget its validators and then adds one that refuses everything. When
the observers are done the form gives this validator to whoever asks, and a pass that worked with
it alone would find the form invalid; yet the form is found valid. -/
theorem forgotten_not_checked :
    let actions : List Action := [.resetValidators, .inject formRefusal]
    let begun := keeping [] (formSession actions)
    let opened := (Pass.opens formHost (formPass actions).before).final begun
    validators.outcome opened = .ok [formRefusal] ∧
      (((formPass actions).resolving ScenarioMap.defaultScenario [formRefusal]).run
        formHost).outcome begun = .ok false ∧
      (validate .null (.bool true)).outcome (formSession actions) = .ok true := by
  exact ⟨rfl, rfl, rfl⟩

end RecordValidation
