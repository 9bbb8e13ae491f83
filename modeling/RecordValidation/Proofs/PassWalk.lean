import RecordValidation.Proofs.Stages

/-!
# Walking through a pass

What `Host.Offers` is to the checks, `Host.Serves` is to a whole pass: it says that a compositional
property holds of all that a pass asks of a record and does to its session. Then the property holds
of the pass, if it holds of working out its scenarios and its validators (`Host.Serves.run`).
-/

namespace RecordValidation

variable {ρ : Type}

namespace Act.Compositional

variable {holds : ∀ ⦃α : Type⦄, Act ρ α → Prop} (closed : Act.Compositional holds)
  (looks : ∀ {α : Type} (outcome : Outcome α), holds (Act.ofOutcome outcome : Act ρ α))
  (changesErrors : ∀ change, holds (Act.modifyErrors change : Act ρ Unit))

include closed looks changesErrors

/-- Adding a message has the property: the attribute is looked at as a name, and then the errors are
changed. -/
theorem addError (name message : Value) : holds (Act.addError name message : Act ρ Unit) :=
  closed.bind (looks _) fun _ => changesErrors _

/-- Clearing the errors, or those of one attribute, has the property: the name is looked at first,
unless all are cleared, and then the errors are changed. -/
theorem clearErrors (name : Value) : holds (Act.clearErrors name : Act ρ Unit) := by
  unfold Act.clearErrors
  split
  · exact changesErrors _
  · exact closed.bind (looks _) fun _ => changesErrors _

end Act.Compositional

namespace Act.Compositional

variable {holds : ∀ ⦃α : Type⦄, Act ρ α → Prop} (closed : Act.Compositional holds) {host : Host ρ}
  {hooks : List Hook} (observes : ∀ hook ∈ hooks, holds (hook.run host))

include closed observes

/-- Letting the observers before a pass see the record has the property, if it holds of letting each
of them see it. -/
theorem opens : holds (Pass.opens host hooks) := by
  induction hooks with
  | nil => exact closed.pure true
  | cons hook rest inductionHypothesis =>
    obtain ⟨first, others⟩ := List.forall_mem_cons.1 observes
    exact closed.bind first fun _ =>
      closed.bind (inductionHypothesis others) fun _ => closed.pure _

/-- Running observers one after the other has the property if each of them has it. -/
theorem runAll : holds (Pass.runAll host hooks) :=
  closed.forM hooks fun hook present =>
    closed.bind (observes hook present) fun _ => closed.pure ()

end Act.Compositional

/-- A compositional property that holds of all that a record is asked for in a pass, and of all that
is done in one to the record and its session. -/
structure Host.Serves (host : Host ρ) (holds : ∀ ⦃α : Type⦄, Act ρ α → Prop) : Prop extends
    host.Offers holds where
  looks : ∀ {α : Type} (outcome : Outcome α), holds (Act.ofOutcome outcome : Act ρ α)
  asksErrors : holds (Act.errors : Act ρ ErrorBag)
  changesErrors : ∀ change, holds (Act.modifyErrors change : Act ρ Unit)
  callsOff : ∀ recordType, holds (Act.observe (.cancelled recordType) : Act ρ Unit)
  concludes : ∀ recordType scenario failing,
    holds (Act.observe (.validated recordType scenario failing) : Act ρ Unit)
  writes : ∀ name value, holds (host.set name value)
  performs : ∀ action, holds (host.perform action)
  invokes : ∀ method name params, holds (host.invoke method name params)

namespace Host.Serves

variable {host : Host ρ} {holds : ∀ ⦃α : Type⦄, Act ρ α → Prop}

/-- Taking a turn has the property. Of what a turn does, a script called for complaints performs
actions and calls methods, and those are served as well. -/
theorem take (serves : host.Serves holds) (turn : Turn) : holds (turn.take host) := by
  have asks : holds (turn.ask host) := by
    refine turn.holds_ask serves.toOffers (fun _ => serves.writes _) ?_
    intro method params bound _
    exact serves.inlineComplaints method params bound _ (fun _ _ _ action _ =>
      serves.performs action) fun method _ => serves.invokes method _ params
  have adds := serves.toCompositional.addError serves.looks serves.changesErrors
  exact Turn.holds_take serves.toCompositional serves.asksErrors asks fun message => adds _ message

/-- Taking turns one after the other has the property, since each turn has it. -/
theorem takeAll (serves : host.Serves holds) (turns : List Turn) :
    holds (Turn.takeAll host turns) :=
  serves.forM turns fun turn _ => serves.bind (serves.take turn) fun _ => serves.pure ()

/-- Letting an observer see the record has the property, since the actions of its script have it and
its answer is only given. -/
theorem hook (serves : host.Serves holds) (hook : Hook) : holds (hook.run host) :=
  serves.bind (serves.forM hook.actions fun action _ => serves.performs action) fun _ =>
    serves.pure hook.answer

/-- Checking the record in a pass has the property, if it holds of working out its scenarios and its
validators. These two belong to the pass and not to the record, so no record can promise anything of
them. -/
theorem checkRecord (serves : host.Serves holds) {pass : Pass ρ}
    (scenarioMap : holds pass.scenarioMap) (validators : holds pass.validators) :
    holds (pass.checkRecord host) := by
  rw [pass.checkRecord_eq]
  have settles := Pass.holds_settle serves.toCompositional serves.looks scenarioMap validators
  exact serves.bind settles fun turns =>
    serves.bind (serves.takeAll turns) fun _ =>
      serves.toCompositional.runAll fun hook _ => serves.hook hook

/-- A whole pass has the property, if it holds of working out its scenarios and its validators.
Besides checking the record it clears errors, lets observers see the record and reports how it
ends. -/
theorem run (serves : host.Serves holds) {pass : Pass ρ} (scenarioMap : holds pass.scenarioMap)
    (validators : holds pass.validators) : holds (pass.run host) := by
  have clears : holds
      (if pass.clears then Act.clearErrors .null else Pure.pure () : Act ρ Unit) := by
    split
    · exact serves.toCompositional.clearErrors serves.looks serves.changesErrors .null
    · exact serves.pure ()
  have goesOn : holds (do
      if ← Pass.opens host pass.before then
        pass.checkRecord host
        let errors ← Act.errors
        Act.observe (.validated host.typeName pass.scenario errors.size)
        return errors.isEmpty
      else
        Act.observe (.cancelled host.typeName)
        return false : Act ρ Bool) := by
    have opens := serves.toCompositional.opens fun hook (_ : hook ∈ pass.before) =>
      serves.hook hook
    refine serves.bind opens fun opened => ?_
    split
    · refine serves.bind (serves.checkRecord scenarioMap validators) fun _ => ?_
      refine serves.bind serves.asksErrors fun errors => ?_
      exact serves.bind (serves.concludes _ _ _) fun _ => serves.pure _
    · exact serves.bind (serves.callsOff _) fun _ => serves.pure _
  have stages := serves.bind clears fun _ => goesOn
  unfold Pass.run
  cases clearing : pass.clears <;> simpa [clearing] using stages

end Host.Serves

end RecordValidation
