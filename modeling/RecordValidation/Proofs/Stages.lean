import RecordValidation.Proofs.Turns

/-!
# The stages of a pass

Before a pass takes its turns, the observers before it run and it is settled which turns there are;
after them, the other observers run and the pass says whether there are errors.
`Pass.run_eq_stages` is the whole pass as these stages, one after the other.

A pass that nobody observes and whose scenarios are worked out before has little more to it than its
turns; `Pass.run_unobserved` tells what is left.
-/

namespace RecordValidation

namespace Pass

variable {ρ : Type}

/-! ## The stages -/

/-- Settle which turns there are, once the observers before the pass have let the record through. -/
def settle (pass : Pass ρ) : Act ρ (List Turn) := do
  let scenarios ← pass.scenarioMap
  if !(← Act.ofOutcome (scenarios.declares pass.scenario)) then
    throw (.unknownScenario pass.scenario scenarios.names)
  let names ← Act.ofOutcome (pass.checkedNames scenarios)
  let validators ← pass.validators
  let _ ← Act.ofOutcome (activeValidators pass.scenario (.list names) validators)
  return turns pass.scenario names validators

/-- Settling the turns of a pass has a compositional property if working out the scenario map,
working out the validators and looking at values have it. Everything else it does is decided by what
these three give. -/
theorem holds_settle {holds : ∀ ⦃α : Type⦄, Act ρ α → Prop} (closed : Act.Compositional holds)
    (looks : ∀ {α : Type} (outcome : Outcome α), holds (Act.ofOutcome outcome : Act ρ α))
    {pass : Pass ρ} (scenarioMap : holds pass.scenarioMap) (validators : holds pass.validators) :
    holds pass.settle := by
  have chooses : ∀ scenarios, holds (do
      let names ← Act.ofOutcome (pass.checkedNames scenarios)
      let validators ← pass.validators
      let _ ← Act.ofOutcome (activeValidators pass.scenario (.list names) validators)
      return turns pass.scenario names validators : Act ρ (List Turn)) := by
    intro scenarios
    refine closed.bind (looks _) fun names => closed.bind validators fun listed => ?_
    exact closed.bind (looks _) fun _ => closed.pure _
  refine closed.bind scenarioMap fun scenarios => closed.bind (looks _) fun declared => ?_
  cases declared with
  | true => exact chooses scenarios
  | false => exact closed.bind (looks (.error _)) fun _ => chooses scenarios

/-- Let the observers before the pass see the record and, unless one of them calls the pass off,
settle its turns. -/
def enter (host : Host ρ) (pass : Pass ρ) : Act ρ (Option (List Turn)) := do
  if ← opens host pass.before then some <$> pass.settle
  else
    Act.observe (.cancelled host.typeName)
    return none

/-- Run observers one after the other, whatever they answer. -/
def runAll (host : Host ρ) (hooks : List Hook) : Act ρ Unit :=
  forM hooks fun hook => do
    let _ ← hook.run host
    return

/-- Going through observers is running them one after the other. -/
theorem forIn_eq_runAll (host : Host ρ) (hooks : List Hook) :
    (do for hook in hooks do let _ ← hook.run host) = runAll host hooks := by
  rw [runAll, ← Act.forIn_eq_forM]
  simp only [bind_assoc, pure_bind]

/-- What comes after the turns: the observers after the pass run, and the answer is whether there
are no errors. -/
def conclude (host : Host ρ) (pass : Pass ρ) : Act ρ Bool := do
  runAll host pass.after
  let errors ← Act.errors
  Act.observe (.validated host.typeName pass.scenario errors.size)
  return errors.isEmpty

/-- Take the turns that are settled and conclude; without turns, the record is not valid. -/
def finish (host : Host ρ) (pass : Pass ρ) : Option (List Turn) → Act ρ Bool
  | none => return false
  | some turns => do
    Turn.takeAll host turns
    pass.conclude host

/-- The record is checked in the turns that are settled. The turns are the part of running the
active validators that comes after settling which these are. -/
theorem checkRecord_eq (host : Host ρ) (pass : Pass ρ) :
    pass.checkRecord host = (do
      let turns ← pass.settle
      Turn.takeAll host turns
      runAll host pass.after) := by
  unfold checkRecord settle
  simp only [runActive_eq_turns, bind_assoc, forIn_eq_runAll]
  congr 1
  funext scenarios
  congr 1
  funext declared
  cases declared with
  | false => rfl
  | true => simp only [Bool.not_true, Bool.false_eq_true, ↓reduceIte, bind_assoc, pure_bind]

/-- A pass that clears the errors, or starts without any, starts without any. -/
theorem errors_start {clears : Bool} {session : Session ρ}
    (clean : clears = true ∨ session.errors = .empty) :
    (start clears session).errors = .empty := by
  obtain clearing | without := clean
  · rw [start, clearing, if_pos rfl]
  · rw [start, without, ite_self]

/-- A pass starts with its errors cleared, if it clears them, settles its turns, takes them, and
concludes. A pass that is called off gives no turns, so what is concluded from turns is not reached;
both branches agree with that, and the start is common to them. -/
theorem run_eq_stages (host : Host ρ) (pass : Pass ρ) (session : Session ρ) :
    (pass.run host).run session =
      (pass.enter host >>= pass.finish host).run (start pass.clears session) := by
  have letThrough : (do
        pass.checkRecord host
        let errors ← Act.errors
        Act.observe (.validated host.typeName pass.scenario errors.size)
        return errors.isEmpty : Act ρ Bool) =
      (some <$> pass.settle) >>= pass.finish host := by
    simp only [checkRecord_eq, conclude, finish, map_eq_pure_bind, bind_assoc, pure_bind]
  have entered : (do
        if ← opens host pass.before then
          pass.checkRecord host
          let errors ← Act.errors
          Act.observe (.validated host.typeName pass.scenario errors.size)
          return errors.isEmpty
        else
          Act.observe (.cancelled host.typeName)
          return false : Act ρ Bool) =
      pass.enter host >>= pass.finish host := by
    rw [enter, bind_assoc]
    congr 1
    funext goesOn
    cases goesOn with
    | false => rfl
    | true => exact letThrough
  rw [← entered, run]
  cases pass.clears <;> rfl

/-! ## Passes that nobody observes -/

/-- The turns of a pass whose scenarios and validators are worked out before. -/
def turnsIn (pass : Pass ρ) (scenarios : Outcome ScenarioMap) (validators : List Validator) :
    Outcome (List Turn) := do
  let known ← scenarios
  if !(← known.declares pass.scenario) then throw (.unknownScenario pass.scenario known.names)
  let names ← pass.checkedNames known
  let _ ← activeValidators pass.scenario (.list names) validators
  return turns pass.scenario names validators

/-- A pass has turns exactly if its scenario is declared, the names to check are known, and the
validators active there tell what they cover. Each of the three is a test that may fail, and the
pass goes on only past one that does not. -/
theorem turnsIn_eq_ok_iff {pass : Pass ρ} {scenarios : Outcome ScenarioMap}
    {validators : List Validator} {found : List Turn} :
    pass.turnsIn scenarios validators = .ok found ↔
      ∃ known, scenarios = .ok known ∧ known.declares pass.scenario = .ok true ∧
        ∃ names, pass.checkedNames known = .ok names ∧
          Admits pass.scenario names validators ∧
          turns pass.scenario names validators = found := by
  have chosen : ∀ names, (do
        let _ ← activeValidators pass.scenario (.list names) validators
        return turns pass.scenario names validators : Outcome (List Turn)) = .ok found ↔
      Admits pass.scenario names validators ∧ turns pass.scenario names validators = found := by
    intro names
    rw [Outcome.bind_eq_ok_iff]
    constructor
    · rintro ⟨active, chosen, whole⟩
      exact ⟨(activeValidators_eq_ok_iff.1 chosen).1, Except.ok.inj whole⟩
    · rintro ⟨admits, rfl⟩
      exact ⟨_, activeValidators_eq_ok_iff.2 ⟨admits, rfl⟩, rfl⟩
  rw [turnsIn, Outcome.bind_eq_ok_iff]
  refine exists_congr fun known => and_congr_right fun _ => ?_
  cases known.declares pass.scenario with
  | error fault => simp [bind, Except.bind]
  | ok declared =>
    cases declared with
    | false => simp [bind, Except.bind, throw, throwThe, MonadExceptOf.throw]
    | true =>
      simp only [true_and, ← chosen, ← Outcome.bind_eq_ok_iff]
      rfl

/-- A turn of a pass with given scenarios and validators is of a validator that is active in the
scenario, at one of its attributes that is among the names to check. -/
theorem of_mem_turnsIn {pass : Pass ρ} {scenarios : Outcome ScenarioMap}
    {validators : List Validator} {found : List Turn} {turn : Turn}
    (planned : pass.turnsIn scenarios validators = .ok found) (taken : turn ∈ found) :
    turn.validator ∈ validators ∧ turn.validator.appliesTo pass.scenario = true ∧
      turn.name ∈ turn.validator.attributeNames ∧
      ∃ known checked, scenarios = .ok known ∧ pass.checkedNames known = .ok checked ∧
        checked.contains (.text turn.name) = true := by
  obtain ⟨known, isKnown, -, checked, isChecked, -, rfl⟩ := turnsIn_eq_ok_iff.1 planned
  obtain ⟨present, active, own, asked⟩ := of_mem_turns taken
  exact ⟨present, active, own, known, checked, isKnown, isChecked, asked⟩

/-- A pass that works out some scenarios and after that finds some validators settles the turns it
has with these. The premises fix what the two parts of a pass that may have effects do here: working
out scenarios may change the session, and finding the validators after it may not. -/
theorem run_settle_of_lists {pass : Pass ρ} {opened settled : Session ρ}
    {scenarios : Outcome ScenarioMap} {listed : List Validator}
    (worksOut : pass.scenarioMap.run opened = (Act.ofOutcome scenarios).run settled)
    (finds : pass.validators.run settled = .ok listed settled) :
    pass.settle.run opened = (Act.ofOutcome (pass.turnsIn scenarios listed)).run settled := by
  unfold settle turnsIn
  rw [EStateM.run_bind, worksOut]
  cases scenarios with
  | error fault => rfl
  | ok known =>
    simp only [Act.ofOutcome_ok, EStateM.run_pure, Act.ofOutcome_bind, pure_bind]
    cases known.declares pass.scenario with
    | error fault => rfl
    | ok declared =>
      cases declared with
      | false => rfl
      | true =>
        cases pass.checkedNames known with
        | error fault => rfl
        | ok names =>
          simp only [Act.ofOutcome_ok, Act.ofOutcome_bind, pure_bind, Bool.not_true,
            Bool.false_eq_true, ↓reduceIte]
          rw [EStateM.run_bind, finds]
          rfl

/-- A pass that nobody observes, with validators that are given and scenarios worked out before. -/
def unobserved (scenarios : Outcome ScenarioMap) (validators : List Validator)
    (scenario names : Value) (clears : Bool) : Pass ρ where
  scenario
  names
  clears
  before := []
  after := []
  scenarioMap := Act.ofOutcome scenarios
  validators := return validators

section

variable (host : Host ρ) {scenarios : Outcome ScenarioMap} {validators : List Validator}
  {scenario names : Value} {clears : Bool}

/-- What a pass that nobody observes settles has nothing to do with the session. -/
theorem settle_unobserved :
    (unobserved (ρ := ρ) scenarios validators scenario names clears).settle =
      Act.ofOutcome ((unobserved (ρ := ρ) scenarios validators scenario names clears).turnsIn
        scenarios validators) := by
  funext session
  exact run_settle_of_lists rfl rfl

/-- A pass that nobody observes stops before its turns if it has none, and otherwise takes them and
reports what they leave. There are no observers to open or conclude the pass, so nothing comes
before the turns but settling them, and nothing after them but the report. -/
theorem run_unobserved (session : Session ρ) :
    ((unobserved scenarios validators scenario names clears).run host).run session =
      match (unobserved (ρ := ρ) scenarios validators scenario names clears).turnsIn scenarios
        validators with
      | .error fault => .error fault (start clears session)
      | .ok turns =>
        match (Turn.takeAll host turns).run (start clears session) with
        | .ok () after => .ok after.errors.isEmpty { after with
            events := after.events ++ [.validated host.typeName scenario after.errors.size] }
        | .error fault after => .error fault after := by
  have record : (unobserved scenarios validators scenario names clears).checkRecord host = (do
      let turns ← Act.ofOutcome ((unobserved (ρ := ρ) scenarios validators scenario names
        clears).turnsIn scenarios validators)
      Turn.takeAll host turns) := by
    have idle : runAll host (unobserved (ρ := ρ) scenarios validators scenario names clears).after =
        pure () := rfl
    simp only [checkRecord_eq, settle_unobserved, idle, bind_pure_unit]
  rw [run_of_unobserved host _ rfl session, record, EStateM.run_bind]
  cases (unobserved (ρ := ρ) scenarios validators scenario names clears).turnsIn scenarios
    validators <;> rfl

/-- A pass that has no turns leaves the session as it started. Clearing the errors comes before
settling anything, so it is done even then. -/
theorem run_unobserved_of_error {fault : Fault} (session : Session ρ)
    (refused : (unobserved (ρ := ρ) scenarios validators scenario names clears).turnsIn
      scenarios validators = .error fault) :
    ((unobserved scenarios validators scenario names clears).run host).run session =
      .error fault (start clears session) := by
  rw [run_unobserved, refused]

/-- A pass that has turns leaves the record and the errors that the turns leave, and answers whether
there are no errors unless a turn stops. The report adds an event, so record and errors are those
that the turns leave. -/
theorem final_unobserved_of_ok {found : List Turn} (session : Session ρ)
    (planned : (unobserved (ρ := ρ) scenarios validators scenario names clears).turnsIn
      scenarios validators = .ok found) :
    (((unobserved scenarios validators scenario names clears).run host).final session).record =
        ((Turn.takeAll host found).final (start clears session)).record ∧
      (((unobserved scenarios validators scenario names clears).run host).final session).errors =
        ((Turn.takeAll host found).final (start clears session)).errors ∧
      ((unobserved scenarios validators scenario names clears).run host).outcome session =
        (fun _ => ((Turn.takeAll host found).final (start clears session)).errors.isEmpty) <$>
          (Turn.takeAll host found).outcome (start clears session) := by
  unfold Act.final Act.outcome
  rw [run_unobserved, planned]
  simp only
  cases (Turn.takeAll host found).run (start clears session) <;> exact ⟨rfl, rfl, rfl⟩

end

end Pass

end RecordValidation
