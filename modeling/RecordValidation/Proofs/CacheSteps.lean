import RecordValidation.Proofs.ModelState
import RecordValidation.Proofs.ModelWalk

/-!
# The validators that a model keeps, over whole runs

Whatever is done with a model, three things can become of the validators it keeps: they are asked
for, a validator is added to them, or they are forgotten. `Model.Trace` reads work on a model as a
list of such steps. Work that leaves the validators alone has none, and what is done one after the
other has the steps of either, also inside of a pass: observers, methods called by inline checks and
passes inside a pass are work like any other.

`Trace.follows` is the law of the steps: whoever asks is given what the rules compile to, with the
validators added since behind it, and the rules are compiled, which is reported once, exactly when
validators are asked for and none are kept. `model_cache_history` states it for operations on a
model, of which each has a trace whatever comes before it.
-/

namespace RecordValidation

/-- The events that report compilations. -/
def compilations (events : List Event) : List Event := events.filter Event.isCompilation

namespace Model

/-! ## What becomes of the validators -/

/-- Something that becomes of the validators that a model keeps. -/
inductive CacheStep
  /-- They are asked for, and these are given. -/
  | asked (given : List Validator)
  /-- A validator is added to them. -/
  | added (validator : Validator)
  /-- They are forgotten. -/
  | forgotten

/-- What was added since the rules were compiled, if what they compiled to is kept. -/
abbrev Additions := Option (List Validator)

/-- What is known after a step. -/
def Additions.step : Additions → CacheStep → Additions
  | none, .asked _ => some []
  | some added, .asked _ => some added
  | none, .added _ => none
  | some added, .added validator => some (added ++ [validator])
  | _, .forgotten => none

/-- What is known after some steps. -/
def Additions.after (known : Additions) (steps : List CacheStep) : Additions :=
  steps.foldl Additions.step known

/-- The validators added since the rules were last compiled, where none are kept to begin with. -/
def addedSince (steps : List CacheStep) : List Validator :=
  (Additions.after none steps).getD []

/-- How often validators are asked for when none are kept. -/
def Additions.firstUses (known : Additions) : List CacheStep → Nat
  | [] => 0
  | .asked given :: rest =>
    (if known.isNone then 1 else 0) + firstUses (known.step (.asked given)) rest
  | other :: rest => firstUses (known.step other) rest

/-- What is known after steps in a row is what is known after the second from after the first. -/
theorem Additions.after_append (known : Additions) (first second : List CacheStep) :
    known.after (first ++ second) = (known.after first).after second :=
  List.foldl_append

/-- First uses are counted along the way. Whether the second part begins with a first use depends on
what is known after the first. -/
theorem Additions.firstUses_append (known : Additions) (first second : List CacheStep) :
    known.firstUses (first ++ second) =
      known.firstUses first + (known.after first).firstUses second := by
  induction first generalizing known with
  | nil => exact (Nat.zero_add _).symm
  | cons step rest inductionHypothesis =>
    cases step with
    | asked given =>
      simp only [List.cons_append, firstUses, inductionHypothesis, Nat.add_assoc]
      rfl
    | _ => exact inductionHypothesis _

/-- What work has to leave alone if nothing is to become of the validators: the type of the model,
the validators it keeps and the reports of compilations. -/
def kept (session : Session Model) : ModelType × ValidatorCache × List Event :=
  (session.record.type, session.record.cache, compilations session.events)

/-- Work on a model, done from a session on, and the steps in which it has to do with the
validators. -/
inductive Trace : {α : Type} → Act Model α → Session Model → List CacheStep → Prop
  | idle {α : Type} {work : Act Model α} (keeps : Act.Keeps kept work) (session : Session Model) :
      Trace work session []
  | ask {session after : Session Model} {given : List Validator}
      (run : validators.run session = .ok given after) : Trace validators session [.asked given]
  | add {session after : Session Model} {given : List Validator}
      (run : validators.run session = .ok given after) (validator : Validator) :
      Trace (inject validator) session [.asked given, .added validator]
  | forget (session : Session Model) : Trace resetValidators session [.forgotten]
  | both {α β : Type} {first : Act Model α} {next : α → Act Model β} {value : α}
      {session middle : Session Model} {steps others : List CacheStep}
      (before : Trace first session steps) (run : first.run session = .ok value middle)
      (after : Trace (next value) middle others) : Trace (first >>= next) session (steps ++ others)
  | stopped {α β : Type} {first : Act Model α} {next : α → Act Model β} {fault : Fault}
      {session middle : Session Model} {steps : List CacheStep}
      (before : Trace first session steps) (run : first.run session = .error fault middle) :
      Trace (first >>= next) session steps

/-! ## The law of the steps -/

/-- A session on a model of a type, which keeps nothing, or what its rules compile to with what is
known to be added. -/
structure Standing (type : ModelType) (compiled : List Validator) (known : Additions)
    (session : Session Model) : Prop where
  ofType : session.record.type = type
  current : session.record.cache.current = known.map (compiled ++ ·)

/-- Whoever asks is given what the rules compile to and behind it what was added since. -/
def Answers (compiled : List Validator) (known : Additions) (steps : List CacheStep) : Prop :=
  ∀ earlier given later, steps = earlier ++ .asked given :: later →
    given = compiled ++ (known.after earlier).getD []

/-- The report that the rules of a type were compiled. -/
def report (type : ModelType) (compiled : List Validator) : Event :=
  .compiled compiled.length (some type.name)

/-- What the steps between two sessions say about them: whoever asks is given what is to be given,
the second session stands as the steps say, and between the two each first use is reported. -/
structure Follows (type : ModelType) (compiled : List Validator) (known : Additions)
    (steps : List CacheStep) (session after : Session Model) : Prop where
  answers : Answers compiled known steps
  standing : Standing type compiled (known.after steps) after
  reported : compilations after.events =
    compilations session.events ++ List.replicate (known.firstUses steps) (report type compiled)

/-- Without steps nobody is given anything. -/
theorem answers_nil (compiled : List Validator) (known : Additions) :
    Answers compiled known [] := by
  intro earlier given later split
  cases earlier <;> cases split

/-- If the first asks and is given what is to be given, and the others are given what is to be given
after that, all are. -/
theorem answers_asked {compiled given : List Validator} {known : Additions}
    {rest : List CacheStep} (right : given = compiled ++ known.getD [])
    (others : Answers compiled (known.step (.asked given)) rest) :
    Answers compiled known (.asked given :: rest) := by
  intro earlier asked later split
  cases earlier with
  | nil =>
    cases split
    exact right
  | cons step earlier =>
    obtain ⟨rfl, behind⟩ := List.cons.inj split
    exact others earlier asked later behind

/-- A single step in which nobody asks gives nobody anything. -/
theorem answers_of_silent (compiled : List Validator) (known : Additions) {step : CacheStep}
    (silent : ∀ given, step ≠ .asked given) : Answers compiled known [step] := by
  intro earlier given later split
  cases earlier with
  | nil => exact absurd (List.cons.inj split).1 (silent given)
  | cons first earlier => simp at split

/-- What is given behind some steps is given from what is known after them. Whoever asks does so in
one of the two parts, and what is known there is known from the steps before it. -/
theorem Answers.append {compiled : List Validator} {known : Additions}
    {first second : List CacheStep} (before : Answers compiled known first)
    (behind : Answers compiled (known.after first) second) :
    Answers compiled known (first ++ second) := by
  intro earlier given later split
  obtain ⟨middle, rfl, isSecond⟩ | ⟨middle, isFirst, isLater⟩ :=
    List.append_eq_append_iff.1 split
  · rw [Additions.after_append]
    exact behind middle given later isSecond
  · cases middle with
    | nil =>
      rw [List.append_nil] at isFirst
      subst isFirst
      exact behind [] given later isLater.symm
    | cons step middle =>
      obtain ⟨rfl, -⟩ := List.cons.inj isLater
      exact before earlier given middle isFirst

/-- Steps in a row say what either of them says. The second part stands on what the first leaves,
and the reports of both are added up. -/
theorem Follows.append {type : ModelType} {compiled : List Validator} {known : Additions}
    {first second : List CacheStep} {session middle after : Session Model}
    (before : Follows type compiled known first session middle)
    (behind : Follows type compiled (known.after first) second middle after) :
    Follows type compiled known (first ++ second) session after where
  answers := before.answers.append behind.answers
  standing := by
    rw [Additions.after_append]
    exact behind.standing
  reported := by
    rw [behind.reported, before.reported, Additions.firstUses_append, List.append_assoc,
      List.replicate_append_replicate]

section

variable {type : ModelType} {compiled : List Validator}
  (compiles : compile .builtin (some type.owner) type.rules = .ok compiled)

include compiles

/-- The validators in force are those kept, or what the rules compile to if none are. That the rules
compile is needed in the second case only. -/
theorem inForce_eq {model : Model} (ofType : model.type = type) :
    model.inForce = .ok (model.cache.current.getD compiled) := by
  unfold inForce
  rw [ofType]
  cases model.cache.current with
  | none => exact compiles
  | some held => rfl

/-- The validators in force are what the rules compile to and behind it what is known to be added.
Where nothing is known to be added none are kept, and the rules compile to the same validators as
before. -/
theorem Standing.inForce {known : Additions} {session : Session Model}
    (standing : Standing type compiled known session) :
    session.record.inForce = .ok (compiled ++ known.getD []) := by
  rw [inForce_eq compiles standing.ofType, standing.current]
  cases known with
  | none => exact congrArg Except.ok (List.append_nil compiled).symm
  | some added => rfl

/-- Asking for validators gives those in force, and compiles and reports them if none are kept. With
nothing known the step is a first use, so it is the only case in which a report is added. -/
theorem Standing.ask {known : Additions} {session : Session Model}
    (standing : Standing type compiled known session) :
    ∃ after, validators.run session = .ok (compiled ++ known.getD []) after ∧
      Follows type compiled known [.asked (compiled ++ known.getD [])] session after := by
  refine ⟨_, run_validators (standing.inForce compiles), ?_⟩
  have answers : Answers compiled known [.asked (compiled ++ known.getD [])] :=
    answers_asked rfl (answers_nil _ _)
  cases known with
  | none =>
    have bare : session.record.cache.current = none := standing.current
    refine ⟨answers, ⟨?_, ?_⟩, ?_⟩
    · simp only [keeping, bare]
      exact standing.ofType
    · simp only [keeping, bare]
      rfl
    · simp only [keeping, bare, standing.ofType, compilations, List.filter_append]
      simp [compiledEvent, report, Additions.firstUses, Event.isCompilation, ModelType.owner]
  | some added =>
    have held : session.record.cache.current = some (compiled ++ added) := standing.current
    refine ⟨answers, ?_, ?_⟩
    · simp only [keeping, held]
      exact standing
    · simp only [keeping, held]
      simp [Additions.firstUses]

/-- Adding a validator asks for those in force and puts it behind them. The validators are asked for
first, so adding is two steps, and the second has those kept to put the new one behind. -/
theorem Standing.add {known : Additions} {session after : Session Model} {given : List Validator}
    (standing : Standing type compiled known session)
    (run : validators.run session = .ok given after) (validator : Validator) :
    Follows type compiled known [.asked given, .added validator] session
      ((inject validator).final session) := by
  obtain ⟨reached, asked, follows⟩ := standing.ask compiles
  cases asked.symm.trans run
  have appended : (inject validator).final session = { after with
      record := { after.record with
        cache := after.record.cache.keep (compiled ++ known.getD [] ++ [validator]) } } := by
    rw [Act.final, inject, EStateM.run_bind, run]
    rfl
  have adds : Follows type compiled (known.after [.asked (compiled ++ known.getD [])])
      [.added validator] after ((inject validator).final session) := by
    rw [appended]
    refine ⟨answers_of_silent _ _ nofun, ⟨follows.standing.ofType, ?_⟩, ?_⟩
    · cases known <;> simp [Additions.after, Additions.step, ValidatorCache.keep]
    · cases known <;> exact (List.append_nil _).symm
  exact follows.append adds

end

/-- Forgetting the validators leaves none to be kept. -/
theorem Standing.forget {type : ModelType} {compiled : List Validator} {known : Additions}
    {session : Session Model} (standing : Standing type compiled known session) :
    Follows type compiled known [.forgotten] session (resetValidators.final session) where
  answers := answers_of_silent _ _ nofun
  standing := by
    refine ⟨standing.ofType, session.record.cache.current_forget.trans ?_⟩
    cases known <;> rfl
  reported := (List.append_nil _).symm

/-- Work leads where its steps say.

Proof: by induction on the trace. Work without steps leaves what the standing and the reports depend
on, each single step has been dealt with, and pieces of work in a row say what either of them
says. -/
theorem Trace.follows {type : ModelType} {compiled : List Validator}
    (compiles : compile .builtin (some type.owner) type.rules = .ok compiled) {α : Type}
    {work : Act Model α} {session : Session Model} {steps : List CacheStep}
    (trace : Trace work session steps) {known : Additions}
    (standing : Standing type compiled known session) :
    Follows type compiled known steps session (work.final session) := by
  induction trace generalizing known with
  | @idle _ work keeps session =>
    have left := keeps session
    simp only [kept, Prod.mk.injEq] at left
    obtain ⟨sameType, sameCache, sameReports⟩ := left
    refine ⟨answers_nil _ _, ⟨sameType.trans standing.ofType, ?_⟩, ?_⟩
    · rw [sameCache]
      exact standing.current
    · rw [sameReports]
      exact (List.append_nil _).symm
  | ask run =>
    obtain ⟨reached, asked, follows⟩ := standing.ask compiles
    cases asked.symm.trans run
    rwa [(Act.run_eq_ok_iff.1 run).2]
  | add run validator => exact standing.add compiles run validator
  | forget session => exact standing.forget
  | both before run after beforeHypothesis afterHypothesis =>
    obtain ⟨given, reached⟩ := Act.run_eq_ok_iff.1 run
    have follows := beforeHypothesis standing
    rw [reached] at follows
    simp only [Act.final_bind, given, reached]
    exact follows.append (afterHypothesis follows.standing)
  | stopped before run beforeHypothesis =>
    simp only [Act.final_bind, (Act.run_eq_error_iff.1 run).1]
    exact beforeHypothesis standing

end Model

end RecordValidation
