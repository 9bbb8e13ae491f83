import RecordValidation.Proofs.Stages

/-!
# What happens in a pass, and in which order

A pass takes steps: observers see the record before it, validators run, observers see the record
after it. `Pass.Taken` is the journal of some steps. They are taken one after the other, each once
and each where the one before it ends, and only the last of them may stop with a fault.

`pass_lifecycle` gives the journal of a pass for each way in which it can end: called off, in a
scenario that is not declared, stopped by a validator, or done. The journals hold for every record,
also for one that remembers each action performed on it, so they tell all that is done and how
often.
-/

namespace RecordValidation

namespace Pass

variable {ρ : Type}

/-! ## Steps -/

/-- A step of a pass: an observer sees the record, or a validator runs on the names checked. -/
inductive Step
  | observe (hook : Hook)
  | check (validator : Validator) (names : List Value)

/-- Take a step. -/
def Step.act (host : Host ρ) : Step → Act ρ Unit
  | observe hook => do
    let _ ← hook.run host
    return
  | check validator names => validator.runOn host (.list names)

/-- The steps in which observers see the record, one after the other. -/
def observing (hooks : List Hook) : List Step := hooks.map .observe

/-- The steps in which validators run on some names, one after the other. -/
def checking (names : List Value) (validators : List Validator) : List Step :=
  validators.map (.check · names)

/-- Steps are taken from a session on, each where the one before it ends. All of them end well,
except that the last may stop with a fault. -/
inductive Taken (host : Host ρ) : List Step → Session ρ → Outcome Unit → Session ρ → Prop
  | nothing (session : Session ρ) : Taken host [] session (.ok ()) session
  | next {step : Step} {rest : List Step} {session middle after : Session ρ}
      {outcome : Outcome Unit} (taken : (step.act host).run session = .ok () middle)
      (others : Taken host rest middle outcome after) :
      Taken host (step :: rest) session outcome after
  | stopped {step : Step} {session after : Session ρ} {fault : Fault}
      (stops : (step.act host).run session = .error fault after) :
      Taken host [step] session (.error fault) after

variable {host : Host ρ} {session middle after : Session ρ} {steps rest : List Step}

/-- Whatever steps there are, either all of them are taken, or one stops and those behind it are not
taken any more. The induction is on the steps, from whatever session the ones before have left. -/
theorem exists_taken (host : Host ρ) (steps : List Step) (session : Session ρ) :
    (∃ after, Taken host steps session (.ok ()) after) ∨
      ∃ earlier failing later fault after, steps = earlier ++ failing :: later ∧
        Taken host (earlier ++ [failing]) session (.error fault) after := by
  induction steps generalizing session with
  | nil => exact .inl ⟨session, .nothing session⟩
  | cons step rest inductionHypothesis =>
    cases taken : (step.act host).run session with
    | error fault stopped => exact .inr ⟨[], step, rest, fault, stopped, rfl, .stopped taken⟩
    | ok result middle =>
      obtain ⟨after, others⟩ | ⟨earlier, failing, later, fault, after, rfl, others⟩ :=
        inductionHypothesis middle
      · exact .inl ⟨after, .next taken others⟩
      · exact .inr ⟨step :: earlier, failing, later, fault, after, rfl, .next taken others⟩

/-- Going through steps of which all are taken ends well and leaves what they leave. The induction
is on the journal, and the case in which a step stops does not arise. -/
theorem Taken.run_of_ok (taken : Taken host steps session (.ok ()) after) :
    (forM steps (Step.act host)).run session = .ok () after := by
  generalize isOk : (Except.ok () : Outcome Unit) = outcome at taken
  induction taken with
  | nothing session => rfl
  | next step others inductionHypothesis =>
    rw [List.forM_cons, EStateM.run_bind, step]
    exact inductionHypothesis isOk
  | stopped stops => cases isOk

/-- Going through steps of which one stops leaves out the rest. They may be any steps at all, since
none of them is reached. -/
theorem Taken.run_of_error {fault : Fault} (rest : List Step)
    (taken : Taken host steps session (.error fault) after) :
    (forM (steps ++ rest) (Step.act host)).run session = .error fault after := by
  generalize isError : (Except.error fault : Outcome Unit) = outcome at taken
  induction taken with
  | nothing session => cases isError
  | next step others inductionHypothesis =>
    rw [List.cons_append, List.forM_cons, EStateM.run_bind, step]
    exact inductionHypothesis isError
  | stopped stops =>
    cases isError
    rw [List.singleton_append, List.forM_cons, EStateM.run_bind, stops]

/-- If all of some steps are taken, the first is, and so are the others where it ends. -/
theorem Taken.of_cons {step : Step} (taken : Taken host (step :: rest) session (.ok ()) after) :
    ∃ middle, (step.act host).run session = .ok () middle ∧
      Taken host rest middle (.ok ()) after := by
  generalize isOk : (Except.ok () : Outcome Unit) = outcome at taken
  cases taken with
  | next first others => exact ⟨_, first, others⟩
  | stopped stops => cases isOk

/-! ## Observers and validators as steps -/

/-- Only falsehood itself calls a pass off. The number nought and null count as false elsewhere;
here they do not. -/
theorem callsOff_iff {answer : Value} : answer.callsOff = true ↔ answer = .bool false := by
  cases answer with
  | bool truth => cases truth <;> simp [Value.callsOff]
  | _ => simp [Value.callsOff]

/-- An observer that is done has performed its actions. -/
theorem performed_of_observed {hook : Hook}
    (observed : ((Step.observe hook).act host).run session = .ok () after) :
    (hook.actions.forM host.perform).run session = .ok () after := by
  unfold Step.act Hook.run at observed
  rw [EStateM.run_bind, EStateM.run_bind] at observed
  cases performed : (hook.actions.forM host.perform).run session with
  | error fault stopped =>
    rw [performed] at observed
    cases observed
  | ok result reached =>
    rw [performed] at observed
    cases observed
    rfl

/-- An observer that is done gives its answer, whatever that is. -/
theorem run_hook_of_observed {hook : Hook}
    (observed : ((Step.observe hook).act host).run session = .ok () after) :
    (hook.run host).run session = .ok hook.answer after := by
  rw [Hook.run, EStateM.run_bind, performed_of_observed observed]
  rfl

/-- Observers that are all done let a pass begin unless one of them answers with falsehood itself;
in either case the ones behind it run as well. Whether it begins is one answer for all of them,
given when the last is done. -/
theorem run_opens {hooks : List Hook}
    (observed : Taken host (observing hooks) session (.ok ()) after) :
    (opens host hooks).run session = .ok (hooks.all fun hook => !hook.answer.callsOff) after := by
  induction hooks generalizing session with
  | nil =>
    cases observed
    rfl
  | cons hook rest inductionHypothesis =>
    obtain ⟨middle, first, others⟩ := observed.of_cons
    simp only [opens, EStateM.run_bind, run_hook_of_observed first, inductionHypothesis others]
    rfl

/-- Running observers one after the other is taking the steps in which they see the record. -/
theorem runAll_eq_steps (host : Host ρ) (hooks : List Hook) :
    runAll host hooks = forM (observing hooks) (Step.act host) := by
  rw [runAll, observing, List.forM_map]
  rfl

/-- Once the validators that run are chosen, running them is taking the steps of those. -/
theorem runActive_eq_steps {scenario : Value} {names : List Value}
    {validators selected : List Validator}
    (chosen : activeValidators scenario (.list names) validators = .ok selected) :
    runActive host scenario names validators =
      forM (checking names selected) (Step.act host) := by
  rw [runActive, chosen, Act.ofOutcome_ok, pure_bind, Act.forIn_eq_forM, checking, List.forM_map]
  rfl

/-- Validators that are to run either all run to their end, or one of them stops and those behind it
do not run. It is `exists_taken` for steps that come from validators, and splitting the steps splits
the validators. -/
theorem exists_checked (host : Host ρ) (names : List Value) (validators : List Validator)
    (session : Session ρ) :
    (∃ after, Taken host (checking names validators) session (.ok ()) after) ∨
      ∃ earlier failing later fault after, validators = earlier ++ failing :: later ∧
        Taken host (checking names (earlier ++ [failing])) session (.error fault) after := by
  refine (exists_taken host (checking names validators) session).imp_right ?_
  rintro ⟨steps, step, behind, fault, after, split, taken⟩
  obtain ⟨earlier, others, rfl, rfl, isBehind⟩ := List.map_eq_append_iff.1 split
  obtain ⟨failing, later, rfl, rfl, rfl⟩ := List.map_eq_cons_iff.1 isBehind
  refine ⟨earlier, failing, later, fault, after, rfl, ?_⟩
  rwa [checking, List.map_append]

/-- Where one of some validators stops, going through all of them stops. -/
theorem Taken.run_checking_of_error {names : List Value} {earlier : List Validator}
    {failing : Validator} {fault : Fault} (later : List Validator)
    (taken : Taken host (checking names (earlier ++ [failing])) session (.error fault) after) :
    (forM (checking names (earlier ++ failing :: later)) (Step.act host)).run session =
      .error fault after := by
  have split : checking names (earlier ++ failing :: later) =
      checking names (earlier ++ [failing]) ++ checking names later := by simp [checking]
  rw [split, taken.run_of_error]

/-! ## The ways in which a pass can end -/

/-- What a pass does that is not called off: check the record, report how many attributes failed,
and tell whether none did. -/
def checkAndReport (host : Host ρ) (pass : Pass ρ) : Act ρ Bool := do
  pass.checkRecord host
  let errors ← Act.errors
  Act.observe (.validated host.typeName pass.scenario errors.size)
  return errors.isEmpty

section

variable {pass : Pass ρ} {opened : Session ρ}
  (observed : Taken host (observing pass.before) (start pass.clears session) (.ok ()) opened)

include observed

/-- A pass that is called off ends where the observers before it leave the session. Nothing of the
pass is left but the event that reports it, so neither the record nor the errors change any more. -/
theorem run_of_calledOff (calledOff : ∃ hook ∈ pass.before, hook.answer = .bool false) :
    (pass.run host).run session = .ok false { opened with
      events := opened.events ++ [.cancelled host.typeName] } := by
  have closed : (pass.before.all fun hook => !hook.answer.callsOff) = false := by
    obtain ⟨hook, present, answer⟩ := calledOff
    refine List.all_eq_false.2 ⟨hook, present, ?_⟩
    simp [callsOff_iff.2 answer]
  rw [run_eq_stages, enter, bind_assoc, EStateM.run_bind, run_opens observed, closed]
  rfl

/-- A pass that is not called off goes on where the observers before it leave the session. Being
open is one condition on all answers, so the premise is on each. -/
theorem run_of_opened (goesOn : ∀ hook ∈ pass.before, hook.answer ≠ .bool false) :
    (pass.run host).run session = (pass.checkAndReport host).run opened := by
  have isOpen : (pass.before.all fun hook => !hook.answer.callsOff) = true := by
    refine List.all_eq_true.2 fun hook present => ?_
    simp [mt callsOff_iff.1 (goesOn hook present)]
  have checks : (some <$> pass.settle) >>= pass.finish host = pass.checkAndReport host := by
    simp only [checkAndReport, checkRecord_eq, conclude, finish, map_eq_pure_bind, bind_assoc,
      pure_bind]
  rw [run_eq_stages, enter, bind_assoc, EStateM.run_bind, run_opens observed, isOpen]
  exact congrArg (EStateM.run · opened) checks

end

/-- What a pass finds out before its validators run: its scenario is declared in the map it
consults, and then it knows the names to check and the validators selected for them. -/
inductive Ready (pass : Pass ρ) (opened : Session ρ) (names : List Value)
    (selected : List Validator) (begun : Session ρ) : Prop
  | intro {scenarios : ScenarioMap} {settled : Session ρ} {validators : List Validator}
      (consulted : pass.scenarioMap.run opened = .ok scenarios settled)
      (declared : scenarios.declares pass.scenario = .ok true)
      (checked : pass.checkedNames scenarios = .ok names)
      (listed : pass.validators.run settled = .ok validators begun)
      (chosen : activeValidators pass.scenario (.list names) validators = .ok selected)

section

variable {pass : Pass ρ} {opened : Session ρ}

/-- In a scenario that the map does not declare no validator runs and no observer sees the record
any more. The fault names the scenarios that are declared, and the session is the one that working
them out has left. -/
theorem run_checkRecord_of_unknown {scenarios : ScenarioMap} {settled : Session ρ}
    (consulted : pass.scenarioMap.run opened = .ok scenarios settled)
    (unknown : scenarios.declares pass.scenario = .ok false) :
    (pass.checkRecord host).run opened =
      .error (.unknownScenario pass.scenario scenarios.names) settled := by
  rw [checkRecord, EStateM.run_bind, consulted]
  simp only [unknown, Act.ofOutcome_ok, pure_bind, Bool.not_false, ↓reduceIte]
  rfl

/-- A pass that is ready takes a step for each validator selected and then one for each observer
after it. What is ready is known, so all that came before the steps can be computed. -/
theorem Ready.run_checkRecord {names : List Value} {selected : List Validator} {begun : Session ρ}
    (ready : pass.Ready opened names selected begun) :
    (pass.checkRecord host).run opened = (do
      forM (checking names selected) (Step.act host)
      forM (observing pass.after) (Step.act host)).run begun := by
  obtain ⟨consulted, declared, checked, listed, chosen⟩ := ready
  rw [checkRecord, EStateM.run_bind, consulted]
  simp only [declared, checked, Act.ofOutcome_ok, pure_bind, Bool.not_true, Bool.false_eq_true,
    ↓reduceIte, forIn_eq_runAll, runAll_eq_steps]
  rw [EStateM.run_bind, listed]
  simp only [runActive_eq_steps chosen]

/-- Until its validators run, a pass leaves what working out its scenarios and its validators
leaves. -/
theorem Ready.keeps {γ : Type} {view : Session ρ → γ} {names : List Value}
    {selected : List Validator} {begun : Session ρ}
    (ready : pass.Ready opened names selected begun)
    (mapKeeps : Act.Keeps view pass.scenarioMap) (listKeeps : Act.Keeps view pass.validators) :
    view begun = view opened := by
  obtain ⟨consulted, -, -, listed, -⟩ := ready
  rw [← (Act.run_eq_ok_iff.1 listed).2, ← (Act.run_eq_ok_iff.1 consulted).2]
  exact (listKeeps _).trans (mapKeeps opened)

end

end Pass

open Pass in
/-- The order in which things happen in a pass.

A pass starts with the errors cleared, if it is to clear them. Let its observers before it be done
with the record, each of them once and in their order, whatever they answer; let a view show what
working out the scenarios and the validators leaves alone, such as the values of the record and its
errors.

If one of those observers answered with falsehood itself, the pass is called off where they left the
session, and the answer is no. Otherwise the scenarios are worked out. If they do not declare the
scenario, the pass stops with their names, and the view shows what the observers left. If they do,
the validators selected run in their order. Either all of them run to their end, and then the
observers after the pass see the record once each and in their order, and if these are done the
answer is whether there are no errors at the very end; or one of the validators stops with a fault,
and the pass stops with it there and then.

Proof: observers and validators are steps, and a pass goes through them. Steps of which all are
taken are gone through to their end, and steps of which one stops up to it; one or the other is the
case for the validators selected. -/
theorem pass_lifecycle {ρ γ : Type} (host : Host ρ) (pass : Pass ρ) (session opened : Session ρ)
    (observed : Taken host (observing pass.before) (start pass.clears session) (.ok ()) opened)
    (view : Session ρ → γ) (mapKeeps : Act.Keeps view pass.scenarioMap)
    (listKeeps : Act.Keeps view pass.validators) :
    ((∃ hook ∈ pass.before, hook.answer = .bool false) →
      (pass.run host).run session = .ok false { opened with
        events := opened.events ++ [.cancelled host.typeName] }) ∧
    ((∀ hook ∈ pass.before, hook.answer ≠ .bool false) →
      (∀ scenarios settled, pass.scenarioMap.run opened = .ok scenarios settled →
        scenarios.declares pass.scenario = .ok false →
          (pass.run host).run session =
              .error (.unknownScenario pass.scenario scenarios.names) settled ∧
            view settled = view opened) ∧
      ∀ names selected begun, pass.Ready opened names selected begun →
        view begun = view opened ∧
        ((∃ checked, Taken host (checking names selected) begun (.ok ()) checked ∧
            ∀ closed, Taken host (observing pass.after) checked (.ok ()) closed →
              (pass.run host).run session = .ok closed.errors.isEmpty { closed with
                events := closed.events ++
                  [.validated host.typeName pass.scenario closed.errors.size] }) ∨
          ∃ earlier failing later fault stopped, selected = earlier ++ failing :: later ∧
            Taken host (checking names (earlier ++ [failing])) begun (.error fault) stopped ∧
            (pass.run host).run session = .error fault stopped)) := by
  refine ⟨run_of_calledOff observed, fun goesOn => ?_⟩
  have opens := run_of_opened observed goesOn
  constructor
  · intro scenarios settled consulted unknown
    rw [opens, checkAndReport, EStateM.run_bind, run_checkRecord_of_unknown consulted unknown]
    exact ⟨rfl, (Act.run_eq_ok_iff.1 consulted).2 ▸ mapKeeps opened⟩
  · intro names selected begun ready
    refine ⟨ready.keeps mapKeeps listKeeps, ?_⟩
    rw [opens, checkAndReport, EStateM.run_bind, ready.run_checkRecord, EStateM.run_bind]
    obtain ⟨checked, taken⟩ | ⟨earlier, failing, later, fault, stopped, rfl, taken⟩ :=
      exists_checked host names selected begun
    · refine .inl ⟨checked, taken, fun closed concluded => ?_⟩
      simp only [taken.run_of_ok, concluded.run_of_ok]
      rfl
    · refine .inr ⟨earlier, failing, later, fault, stopped, rfl, taken, ?_⟩
      simp only [taken.run_checking_of_error]

/-- The name is refused twice over, the first time under a guard. -/
def rollCallValidators (guard : Value) : List Validator := [
  { Validator.marking [.text "name"] [] [] with guard := guard, check := .alwaysFails },
  { Validator.marking [.text "name"] [] [] with
    skipOnError := .bool false, check := .alwaysFails }]

/-- A pass that two observers open, the first of which writes a name and gives an answer, and at the
end of which an observer leaves a note. -/
def rollCall (scenario answer guard : Value) : Pass PlainRecord where
  scenario
  names := .null
  clears := true
  before := [⟨[.set (.text "name") (.text "Ada"), .note (.text "first")], answer⟩,
    ⟨[.note (.text "second")], .int 0⟩]
  after := [⟨[.note (.text "last")], .bool false⟩]
  scenarioMap := return ⟨⟨[(.text "default", [.text "name"])]⟩⟩
  validators := return rollCallValidators guard

open Pass in
/-- The pass is called off by falsehood, though not by the zero of the second observer, which sees
the record all the same; it refuses a scenario that is not declared; it runs both validators and
then the last observer, whose answer does not count; and it stops where a guard does. -/
theorem pass_lifecycle_rollCall :
    let record : PlainRecord := { values := .empty, labels := none }
    let written : PlainRecord := { record with values := ⟨[(.text "name", .text "Ada")]⟩ }
    let session : Session PlainRecord := {
      record, errors := ⟨⟨[(.text "old", [.text "stale"])]⟩⟩, events := [] }
    let opened : Session PlainRecord := {
      record := written
      errors := .empty
      events := [.note (.text "first"), .note (.text "second")] }
    let busy : Value := .script (.raise (.text "busy"))
    let run (scenario answer guard : Value) :=
      ((rollCall scenario answer guard).run record.host).run session
    run (.text "default") (.bool false) busy =
        .ok false { opened with events := opened.events ++ [.cancelled "PlainRecord"] } ∧
      run (.text "other") .null .null =
        .error (.unknownScenario (.text "other") [.text "default"]) opened ∧
      run (.text "default") .null .null = .ok false {
        record := written
        errors := ⟨⟨[(.text "name", [.text "nope", .text "nope"])]⟩⟩
        events := opened.events ++
          [.note (.text "last"), .validated "PlainRecord" (.text "default") 1] } ∧
      run (.text "default") .null busy = .error (.raised "busy") opened := by
  intro record written session opened busy run
  have observed : ∀ scenario answer guard, Taken record.host
      (observing (rollCall scenario answer guard).before)
      (start (rollCall scenario answer guard).clears session) (.ok ()) opened :=
    fun _ _ _ => .next rfl (.next rfl (.nothing opened))
  have ends := fun scenario answer guard => pass_lifecycle record.host
    (rollCall scenario answer guard) session opened (observed scenario answer guard) id
    (fun _ => rfl) fun _ => rfl
  have goesOn : ∀ scenario guard, ∀ hook ∈ (rollCall scenario .null guard).before,
      hook.answer ≠ .bool false := by simp [rollCall]
  have ready : ∀ guard, (rollCall (.text "default") .null guard).Ready opened [.text "name"]
      (rollCallValidators guard) opened :=
    fun guard => .intro rfl rfl rfl rfl rfl
  refine ⟨(ends _ _ _).1 ?_, ?_, ?_, ?_⟩
  · exact ⟨_, List.mem_cons_self, rfl⟩
  · exact (((ends _ _ _).2 (goesOn _ _)).1 _ _ rfl rfl).1
  · obtain ⟨-, ⟨checked, taken, concludes⟩ | ⟨_, _, _, _, _, _, _, stops⟩⟩ :=
      ((ends _ _ _).2 (goesOn _ _)).2 _ _ _ (ready .null)
    · cases taken.run_of_ok
      exact concludes _ (.next rfl (.nothing _))
    · cases stops
  · obtain ⟨-, ⟨checked, taken, -⟩ | ⟨_, _, later, _, _, split, taken, stops⟩⟩ :=
      ((ends _ _ _).2 (goesOn _ _)).2 _ _ _ (ready busy)
    · cases taken.run_of_ok
    · have checks := taken.run_checking_of_error later
      rw [← split] at checks
      cases checks
      exact stops

end RecordValidation
