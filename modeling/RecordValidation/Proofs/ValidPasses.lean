import RecordValidation.Proofs.Lifecycle
import RecordValidation.Proofs.Stages

/-!
# What a valid record has passed

A pass that ends without errors has asked everything it was to ask. If its validators only look at
the record and nobody else touches it, every turn of the pass is taken from the same session, finds
no errors to leave its attribute out for, and comes to no messages (`Turn.answered_of_valid`). So a
valid record passes each check of the validators that are active in its scenario, whatever others
stand before it or behind it; `Pass.answered_of_valid` says so of a whole pass.
-/

namespace RecordValidation

/-- A validator only looks at a record: it neither transforms attributes nor calls a function for
complaints. -/
def ValidatorOf.OnlyLooks (validator : Validator) : Prop :=
  validator.transforms = false ∧ validator.check.kind ≠ .inline

instance (validator : Validator) : Decidable validator.OnlyLooks :=
  inferInstanceAs (Decidable (_ ∧ _))

namespace Turn

variable {ρ : Type} {host : Host ρ}

/-- What is asked in a turn of a validator that only looks leaves everything as it was. -/
theorem keeps_ask_of_onlyLooks {turn : Turn} (looks : turn.validator.OnlyLooks) :
    Act.Keeps id (turn.ask host) := by
  refine holds_ask (host.keepsOffers id) turn ?_ ?_
  · intro transforms
    rw [looks.1] at transforms
    cases transforms
  · intro method params bound isInline
    refine absurd ?_ looks.2
    rw [isInline]
    rfl

/-- A turn of a validator that only looks adds its messages to the errors and does nothing else.
What it asks leaves the session, so the messages are added to the one the turn was taken from. -/
theorem run_take_of_onlyLooks {turn : Turn} {session : Session ρ} {course : Course}
    (looks : turn.validator.OnlyLooks) (goesOn : turn.leavesOut session.errors = false)
    (asked : (turn.ask host).outcome session = .ok course) :
    (turn.take host).run session = .ok course { session with
      errors := session.errors.addEach (.text turn.name) course.messages } := by
  have asks : (turn.ask host).run session = .ok course session :=
    Act.run_eq_ok_iff.2 ⟨asked, keeps_ask_of_onlyLooks looks session⟩
  rw [run_take host goesOn, asks]

/-- Turns of validators that only look, all of which are taken and after which there are no errors,
leave the session as it was, and each of them comes to no messages if its questions are asked there.

Proof: by induction on the turns. An attribute that is left out because of its errors has them in
the end as well. So the questions of the first turn are asked, and they come to no messages, because
there would be errors in the end; the session is then what it was for the turns behind it. -/
theorem answered_of_valid {turns : List Turn} {session : Session ρ}
    (looks : ∀ turn ∈ turns, turn.validator.OnlyLooks)
    (done : (takeAll host turns).outcome session = .ok ())
    (valid : ((takeAll host turns).final session).errors.isEmpty = true) :
    session.errors.isEmpty = true ∧ (takeAll host turns).final session = session ∧
      ∀ turn ∈ turns, ∃ course, (turn.ask host).outcome session = .ok course ∧
        course.messages = [] := by
  induction turns generalizing session with
  | nil => exact ⟨valid, rfl, nofun⟩
  | cons turn rest inductionHypothesis =>
    obtain ⟨firstLooks, restLooks⟩ := List.forall_mem_cons.1 looks
    rw [outcome_takeAll_cons] at done
    rw [final_takeAll_cons] at valid ⊢
    cases out : turn.leavesOut session.errors with
    | true =>
      obtain ⟨failing, unchanged⟩ := Act.run_eq_ok_iff.1 (run_take_of_leavesOut host out)
      simp only [failing, unchanged] at done valid
      have without := (inductionHypothesis restLooks done valid).1
      rw [leavesOut, ErrorBag.has_of_isEmpty without, Bool.and_false] at out
      cases out
    | false =>
      cases asked : (turn.ask host).outcome session with
      | error fault =>
        rw [outcome_take, out, if_neg Bool.false_ne_true, asked] at done
        cases done
      | ok course =>
        obtain ⟨answered, left⟩ :=
          Act.run_eq_ok_iff.1 (run_take_of_onlyLooks firstLooks out asked)
        simp only [answered, left] at done valid ⊢
        obtain ⟨added, same, others⟩ := inductionHypothesis restLooks done valid
        obtain ⟨without, silent⟩ := ErrorBag.isEmpty_addEach added
        simp only [silent, ErrorBag.addEach, List.foldl_nil] at same others ⊢
        refine ⟨without, same, ?_⟩
        intro other taken
        rcases List.mem_cons.1 taken with rfl | later
        · exact ⟨course, asked, silent⟩
        · exact others other later

end Turn

namespace Pass

variable {ρ : Type} {host : Host ρ}

/-- Observers without actions are done at once. -/
theorem taken_of_idle {hooks : List Hook} (idle : ∀ hook ∈ hooks, hook.actions = [])
    (session : Session ρ) : Taken host (observing hooks) session (.ok ()) session := by
  induction hooks with
  | nil => exact .nothing session
  | cons hook rest inductionHypothesis =>
    have first : ((Step.observe hook).act host).run session = .ok () session := by
      rw [Step.act, Hook.run, idle hook (by simp)]
      rfl
    exact .next first
      (inductionHypothesis fun other later => idle other (List.mem_cons_of_mem _ later))

section

variable {pass : Pass ρ} {session : Session ρ} {scenarios : Outcome ScenarioMap}
  {listed : List Validator}

/-- A pass after which no observer does anything, and which finds its scenarios and validators
without touching the session, takes the turns it has and reports what they leave. The premises say
that no stage but the turns touches the session, so the stages can be left out one by one. -/
theorem run_checkAndReport_of_idle (idle : ∀ hook ∈ pass.after, hook.actions = [])
    (worksOut : pass.scenarioMap.run session = (Act.ofOutcome scenarios).run session)
    (finds : pass.validators.run session = .ok listed session) :
    (pass.checkAndReport host).run session =
      match pass.turnsIn scenarios listed with
      | .error fault => .error fault session
      | .ok turns =>
        match (Turn.takeAll host turns).run session with
        | .ok () after => .ok after.errors.isEmpty { after with
            events := after.events ++ [.validated host.typeName pass.scenario after.errors.size] }
        | .error fault after => .error fault after := by
  have concludes (after : Session ρ) : (runAll host pass.after).run after = .ok () after := by
    rw [runAll_eq_steps]
    exact (taken_of_idle idle after).run_of_ok
  rw [checkAndReport, checkRecord_eq, EStateM.run_bind, EStateM.run_bind,
    run_settle_of_lists worksOut finds]
  cases pass.turnsIn scenarios listed with
  | error fault => rfl
  | ok turns =>
    simp only [Act.run_ofOutcome_ok, EStateM.run_bind]
    cases (Turn.takeAll host turns).run session with
    | error fault after => rfl
    | ok result after =>
      simp only [concludes]
      rfl

/-- A valid record passes every check of a pass that only looks at it.

Let the observers of a pass do nothing, let it find its scenarios and validators without touching
the session, and let those of them that are active in its scenario only look at the record. If the
pass finds the record valid, it has turns, the record is as it was, and in each turn the questions,
asked of the record as it is, come to no messages. -/
theorem answered_of_valid (idle : ∀ hook ∈ pass.before ++ pass.after, hook.actions = [])
    (looks : ∀ validator ∈ listed, validator.appliesTo pass.scenario = true → validator.OnlyLooks)
    (worksOut : pass.scenarioMap.run (start pass.clears session) =
      (Act.ofOutcome scenarios).run (start pass.clears session))
    (finds : pass.validators.run (start pass.clears session) =
      .ok listed (start pass.clears session))
    (valid : (pass.run host).outcome session = .ok true) :
    ((pass.run host).final session).record = session.record ∧
      ∃ turns, pass.turnsIn scenarios listed = .ok turns ∧ ∀ turn ∈ turns, ∃ course,
        (turn.ask host).outcome (start pass.clears session) = .ok course ∧
          course.messages = [] := by
  have idleBefore : ∀ hook ∈ pass.before, hook.actions = [] := fun hook present =>
    idle hook (List.mem_append_left _ present)
  have idleAfter : ∀ hook ∈ pass.after, hook.actions = [] := fun hook present =>
    idle hook (List.mem_append_right _ present)
  have opened : Taken host (observing pass.before) (start pass.clears session) (.ok ())
      (start pass.clears session) := taken_of_idle idleBefore _
  by_cases calledOff : ∃ hook ∈ pass.before, hook.answer = .bool false
  · rw [(Act.run_eq_ok_iff.1 (run_of_calledOff opened calledOff)).1] at valid
    cases valid
  · have goesOn : ∀ hook ∈ pass.before, hook.answer ≠ .bool false := fun hook present answer =>
      calledOff ⟨hook, present, answer⟩
    have runs := (run_of_opened opened goesOn).trans
      (run_checkAndReport_of_idle idleAfter worksOut finds)
    unfold Act.outcome at valid
    unfold Act.final
    rw [runs] at valid ⊢
    cases planned : pass.turnsIn scenarios listed with
    | error fault =>
      rw [planned] at valid
      cases valid
    | ok turns =>
      simp only [planned] at valid ⊢
      cases taken : (Turn.takeAll host turns).run (start pass.clears session) with
      | error fault after =>
        simp only [taken] at valid
        cases valid
      | ok result after =>
        simp only [taken] at valid ⊢
        obtain ⟨done, left⟩ := Act.run_eq_ok_iff.1 taken
        have turnsLook : ∀ turn ∈ turns, turn.validator.OnlyLooks := by
          intro turn among
          obtain ⟨present, active, -⟩ := of_mem_turnsIn planned among
          exact looks turn.validator present active
        have clean : ((Turn.takeAll host turns).final (start pass.clears session)).errors.isEmpty =
            true := by
          rw [left]
          exact Except.ok.inj valid
        obtain ⟨-, same, answered⟩ := Turn.answered_of_valid turnsLook done clean
        refine ⟨?_, turns, rfl, answered⟩
        rw [← left, same]
        rfl

end

end Pass

end RecordValidation
