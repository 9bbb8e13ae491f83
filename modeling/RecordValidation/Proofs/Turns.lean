import RecordValidation.Proofs.CheckWalk
import RecordValidation.Proofs.FullPass

/-!
# The turns of a pass

A pass runs validators, each of them goes through attributes, and at each attribute it asks some
questions before it adds messages. `Pass.turns` is that walk as one list, the validators in their
order and for each of them its attributes in its own, and `Pass.runActive_eq_turns` says that the
pass takes these turns one after the other, once it is settled that the validators can tell what
they cover.

`Turn.take` tells how a turn goes. The attribute may be left out because it has errors, and then
nothing is asked at all (`Turn.run_take_of_leavesOut`); otherwise the questions are asked, and the
messages of the answer are added to the errors (`Turn.run_take`).
-/

namespace RecordValidation

/-! ## Taking a turn -/

/-- A turn of a validator at an attribute. -/
structure Turn where
  validator : Validator
  name : String

/-- How a turn goes. -/
inductive Course
  /-- The attribute has errors and is left out; nothing is asked. -/
  | failing
  /-- The attribute is left out because its value counts as empty. -/
  | empty
  /-- The attribute is left out because the guard refuses it. -/
  | refused
  /-- The check answers with messages. -/
  | answered (messages : List Value)
  /-- Something that is asked stops with a fault. -/
  | stopped (fault : Fault)

/-- The messages that come of a turn. -/
def Course.messages : Course → List Value
  | answered messages => messages
  | _ => []

namespace Turn

variable {ρ : Type}

/-- Whether the attribute of a turn is left out because of the errors there are. -/
def leavesOut (turn : Turn) (errors : ErrorBag) : Bool :=
  turn.validator.skipOnError.truthy && errors.has (.text turn.name)

/-- Ask whether the value is empty, then the guard, then the check, until an answer leaves the
attribute out. -/
def ask (host : Host ρ) (turn : Turn) : Act ρ Course := do
  if ← turn.validator.skipsEmpty host (.text turn.name) then return .empty
  if ← turn.validator.skipsGuarded host (.text turn.name) then return .refused
  return .answered (← turn.validator.verdict host (.text turn.name))

/-- Take a turn and tell how it goes. -/
def take (host : Host ρ) (turn : Turn) : Act ρ Course := do
  if ← turn.validator.skipsFailing (.text turn.name) then return .failing
  let course ← turn.ask host
  forM course.messages fun message => Act.addError (.text turn.name) message
  return course

/-- A validator that reports adds the messages of its verdict one after the other. -/
theorem report_eq (host : Host ρ) (turn : Turn) :
    turn.validator.report host (.text turn.name) = (do
      let messages ← turn.validator.verdict host (.text turn.name)
      forM messages fun message => Act.addError (.text turn.name) message) := by
  unfold ValidatorOf.report
  congr 1
  funext messages
  exact Act.forIn_eq_forM messages _

/-- A validator that checks an attribute takes a turn, and does not tell how it goes. The two go
through the same three questions; each of them is split on its answer until nothing but the
complaints is left. -/
theorem checkAttribute_eq_take (host : Host ρ) (turn : Turn) :
    turn.validator.checkAttribute host (.text turn.name) = (do
      let _ ← turn.take host
      return) := by
  unfold ValidatorOf.checkAttribute take ask
  rw [report_eq]
  rw [bind_assoc]
  congr 1
  funext failing
  cases failing with
  | true => rfl
  | false =>
    simp only [Bool.false_eq_true, ↓reduceIte, bind_assoc]
    congr 1
    funext empty
    cases empty with
    | true => rfl
    | false =>
      simp only [Bool.false_eq_true, ↓reduceIte, bind_assoc]
      congr 1
      funext refused
      cases refused with
      | true => rfl
      | false =>
        simp only [Bool.false_eq_true, ↓reduceIte, bind_assoc, pure_bind, Course.messages,
          bind_pure_unit]

/-- Adding messages for an attribute adds them to the errors and does nothing else. -/
theorem run_addErrors (name : String) (messages : List Value) (session : Session ρ) :
    (forM messages fun message => (Act.addError (.text name) message : Act ρ Unit)).run session =
      .ok () { session with errors := session.errors.addEach (.text name) messages } := by
  induction messages generalizing session with
  | nil => rfl
  | cons message rest inductionHypothesis =>
    have first : (Act.addError (.text name) message : Act ρ Unit).run session =
        .ok () { session with errors := session.errors.add (.text name) message } := rfl
    rw [List.forM_cons, EStateM.run_bind, first]
    exact inductionHypothesis _

/-- Whether an attribute is left out because of errors is asked of the errors and changes
nothing. -/
theorem run_skipsFailing (turn : Turn) (session : Session ρ) :
    (turn.validator.skipsFailing (.text turn.name)).run session =
      .ok (turn.leavesOut session.errors) session := rfl

/-- A turn at an attribute that is left out because of its errors asks nothing and changes
nothing. -/
theorem run_take_of_leavesOut (host : Host ρ) {turn : Turn} {session : Session ρ}
    (out : turn.leavesOut session.errors = true) :
    (turn.take host).run session = .ok .failing session := by
  rw [take, EStateM.run_bind, run_skipsFailing, out]
  rfl

/-- A turn at any other attribute asks what there is to ask and adds the messages of the answer. The
session behind the questions is the one the messages are added to, since asking may have written a
transformed value. -/
theorem run_take (host : Host ρ) {turn : Turn} {session : Session ρ}
    (goesOn : turn.leavesOut session.errors = false) :
    (turn.take host).run session =
      match (turn.ask host).run session with
      | .ok course after => .ok course { after with
          errors := after.errors.addEach (.text turn.name) course.messages }
      | .error fault after => .error fault after := by
  rw [take, EStateM.run_bind, run_skipsFailing, goesOn]
  simp only [Bool.false_eq_true, ↓reduceIte, EStateM.run_bind]
  cases (turn.ask host).run session with
  | error fault after => rfl
  | ok course after => simp only [run_addErrors, EStateM.run_pure]

/-- What is asked in a turn has a property that all work on known attributes has, if the property
also holds of what the validator writes and of the function it calls for complaints. These two are
premises because neither is bound to the known attributes. -/
theorem holds_ask_of_asksWithin {host : Host ρ} {known : Value → Prop}
    {holds : ∀ ⦃α : Type⦄, Act ρ α → Prop} (offers : host.OffersAt known holds) {turn : Turn}
    (asks : turn.validator.AsksWithin known (.text turn.name))
    (writes : turn.validator.transforms = true →
      ∀ value, holds (host.set (.text turn.name) value))
    (calls : ∀ method params bound, turn.validator.check = .inline method params bound →
      holds (inlineComplaints host method params bound (.text turn.name))) :
    holds (turn.ask host) := by
  refine offers.bind (offers.skipsEmpty asks) fun empty => ?_
  split
  · exact offers.pure _
  refine offers.bind (offers.skipsGuarded asks) fun refused => ?_
  split
  · exact offers.pure _
  exact offers.bind (offers.verdict asks writes calls) fun _ => offers.pure _

/-- What is asked in a turn has a property that all a record is asked for has, if the property also
holds of what the validator writes and of the function it calls for complaints. Every attribute
counts as known here. -/
theorem holds_ask {host : Host ρ} {holds : ∀ ⦃α : Type⦄, Act ρ α → Prop}
    (offers : host.Offers holds) (turn : Turn)
    (writes : turn.validator.transforms = true →
      ∀ value, holds (host.set (.text turn.name) value))
    (calls : ∀ method params bound, turn.validator.check = .inline method params bound →
      holds (inlineComplaints host method params bound (.text turn.name))) :
    holds (turn.ask host) :=
  holds_ask_of_asksWithin offers.toOffersAt (turn.validator.asksWithin_true _) writes calls

section

variable {host : Host ρ} {turn : Turn}

/-- A turn gives what comes of asking, unless the attribute is left out because of its errors. -/
theorem outcome_take (session : Session ρ) :
    (turn.take host).outcome session =
      if turn.leavesOut session.errors then .ok .failing
      else (turn.ask host).outcome session := by
  cases out : turn.leavesOut session.errors with
  | true => exact (Act.run_eq_ok_iff.1 (run_take_of_leavesOut host out)).1
  | false =>
    unfold Act.outcome
    rw [run_take host out]
    cases (turn.ask host).run session <;> rfl

/-- A turn has a compositional property if asking for the errors, the questions of the turn and
adding its messages have it, since it does nothing else. -/
theorem holds_take {holds : ∀ ⦃α : Type⦄, Act ρ α → Prop} (closed : Act.Compositional holds)
    (errors : holds (Act.errors : Act ρ ErrorBag)) (asks : holds (turn.ask host))
    (adds : ∀ message, holds (Act.addError (.text turn.name) message : Act ρ Unit)) :
    holds (turn.take host) := by
  refine closed.bind (closed.bind errors fun _ => closed.pure _) fun failing => ?_
  split
  · exact closed.pure _
  refine closed.bind asks fun course => ?_
  exact closed.bind (closed.forM course.messages fun message _ => adds message) fun _ =>
    closed.pure course

/-- A turn leaves what its questions leave and what adding messages leaves. -/
theorem keeps_take {γ : Type} {view : Session ρ → γ} (asks : Act.Keeps view (turn.ask host))
    (adds : ∀ message, Act.Keeps view (Act.addError (.text turn.name) message : Act ρ Unit)) :
    Act.Keeps view (turn.take host) :=
  holds_take (Act.compositional_keeps view) Act.keeps_errors asks adds

/-- How a turn goes that is taken from a session. -/
def course (host : Host ρ) (turn : Turn) (session : Session ρ) : Course :=
  match (turn.take host).outcome session with
  | .ok course => course
  | .error fault => .stopped fault

/-- An attribute is left out as failing exactly if it is left out because of its errors, before
anything is asked. The questions have three courses of their own and failing is none of them, so
this one can only come from the errors. -/
theorem course_eq_failing_iff {session : Session ρ} :
    turn.course host session = .failing ↔ turn.leavesOut session.errors = true := by
  have asked : Act.Gives (· ≠ .failing) (turn.ask host) := by
    refine Act.gives_bind _ fun empty => ?_
    split
    · exact Act.gives_pure (by simp)
    refine Act.gives_bind _ fun refused => ?_
    split
    · exact Act.gives_pure (by simp)
    exact Act.gives_bind _ fun messages => Act.gives_pure (by simp)
  rw [course, outcome_take]
  cases turn.leavesOut session.errors with
  | true => simp
  | false =>
    cases answer : (turn.ask host).outcome session with
    | ok course => simpa using asked session course answer
    | error fault => simp

/-- What is asked in a turn leaves the errors as they were, if the function that is called for
complaints does. -/
theorem keepsErrors_ask (calls : turn.validator.CallsKeep host Session.errors) :
    Act.Keeps Session.errors (turn.ask host) := by
  refine holds_ask (host.keepsOffers Session.errors) turn ?_ ?_
  · exact fun _ value => host.keeps_set (fun _ _ => rfl) _ value
  · exact fun method params bound isInline => calls method params bound isInline _

/-- The messages that come of a turn are added to the errors, and nothing else becomes of them. The
questions leave the errors as they were, whether or not one of them stops, so the messages are added
to those the turn was taken with. -/
theorem errors_take (calls : turn.validator.CallsKeep host Session.errors) (session : Session ρ) :
    ((turn.take host).final session).errors =
      session.errors.addEach (.text turn.name) (turn.course host session).messages := by
  cases out : turn.leavesOut session.errors with
  | true =>
    obtain ⟨failing, unchanged⟩ := Act.run_eq_ok_iff.1 (run_take_of_leavesOut host out)
    rw [course, failing, unchanged]
    rfl
  | false =>
    have kept := keepsErrors_ask calls session
    unfold course Act.outcome Act.final at *
    rw [run_take host out]
    cases asked : (turn.ask host).run session with
    | ok course after =>
      rw [asked] at kept
      exact congrArg (fun errors => errors.addEach (.text turn.name) course.messages) kept
    | error fault after =>
      rw [asked] at kept
      exact kept

end

/-- Take turns one after the other. -/
def takeAll (host : Host ρ) (turns : List Turn) : Act ρ Unit :=
  forM turns fun turn => do
    let _ ← turn.take host
    return

/-- A validator that runs on the attributes it covers takes a turn at each. -/
theorem takeAll_map (host : Host ρ) (validator : Validator) (names : List String) :
    takeAll host (names.map (Turn.mk validator)) = validator.run host names := by
  unfold takeAll ValidatorOf.run
  rw [List.forM_map]
  exact Act.forM_congr fun name _ => (checkAttribute_eq_take host ⟨validator, name⟩).symm

/-- What is left after some turns is what is left after those behind the first, unless that one
stops. -/
theorem final_takeAll_cons (host : Host ρ) (turn : Turn) (rest : List Turn) (session : Session ρ) :
    (takeAll host (turn :: rest)).final session =
      match (turn.take host).outcome session with
      | .ok _ => (takeAll host rest).final ((turn.take host).final session)
      | .error _ => (turn.take host).final session := by
  rw [takeAll, List.forM_cons, bind_assoc, Act.final_bind]
  cases (turn.take host).outcome session <;> rfl

/-- What some turns give is what those behind the first give, unless that one stops. -/
theorem outcome_takeAll_cons (host : Host ρ) (turn : Turn) (rest : List Turn)
    (session : Session ρ) :
    (takeAll host (turn :: rest)).outcome session =
      match (turn.take host).outcome session with
      | .ok _ => (takeAll host rest).outcome ((turn.take host).final session)
      | .error fault => .error fault := by
  rw [takeAll, List.forM_cons, bind_assoc, Act.outcome_bind]
  cases (turn.take host).outcome session <;> rfl

/-- Turns that come in groups can be taken group by group. -/
theorem takeAll_flatMap {α : Type} (host : Host ρ) (items : List α) (turns : α → List Turn) :
    takeAll host (items.flatMap turns) = forM items fun item => takeAll host (turns item) := by
  unfold takeAll
  induction items with
  | nil => rfl
  | cons item rest inductionHypothesis =>
    rw [List.flatMap_cons, List.forM_append, inductionHypothesis, List.forM_cons]

end Turn

/-! ## The turns there are -/

/-- The names of descriptors can be told only if the descriptors are texts. -/
theorem Descriptor.texts_of_names {descriptors : List Value} {own : List String}
    (told : names descriptors = .ok own) :
    ∀ descriptor ∈ descriptors, descriptor.text?.isSome = true := by
  induction descriptors generalizing own with
  | nil => simp
  | cons descriptor rest inductionHypothesis =>
    rw [names, List.mapM_cons] at told
    obtain ⟨first, isText, others⟩ := Outcome.bind_eq_ok_iff.1 told
    obtain ⟨restOwn, restTold, -⟩ := Outcome.bind_eq_ok_iff.1 others
    rw [List.forall_mem_cons]
    refine ⟨?_, inductionHypothesis restTold⟩
    cases descriptor with
    | text name => rfl
    | _ => cases isText

/-- Values are taken as names only if each of them is one, and then as they are. So nothing is lost
by reasoning about the values themselves once they could be taken as names. -/
theorem Value.isName_of_asNames {values named : List Value} (done : asNames values = .ok named) :
    named = values ∧ ∀ value ∈ values, value.IsName := by
  induction values generalizing named with
  | nil =>
    cases done
    simp
  | cons value rest inductionHypothesis =>
    rw [asNames, List.mapM_cons] at done
    obtain ⟨first, isName, others⟩ := Outcome.bind_eq_ok_iff.1 done
    obtain ⟨restNamed, restDone, whole⟩ := Outcome.bind_eq_ok_iff.1 others
    obtain ⟨rfl, areNames⟩ := inductionHypothesis restDone
    obtain ⟨rfl, isHashable⟩ := isName_of_asName isName
    cases whole
    exact ⟨rfl, List.forall_mem_cons.2 ⟨isHashable, areNames⟩⟩

namespace ValidatorOf

/-- The attributes of a validator that are among some names. -/
def coveredNames (validator : Validator) (names : List Value) : List String :=
  validator.attributeNames.filter fun name => names.contains (.text name)

/-- What a validator covers among some names is told from its descriptors and from the names. The
two are asked for in the order in which a fault would show. -/
theorem coveredBy_list (validator : Validator) (names : List Value) :
    validator.coveredBy (.list names) = (do
      let own ← validator.ownNames
      let named ← Value.asNames names
      return own.filter fun name => named.contains (.text name)) := by
  unfold coveredBy covered
  cases validator.ownNames <;> rfl

/-- A validator can tell what it covers among some names if its descriptors are texts and the names
can be names. -/
def Tells (validator : Validator) (names : List Value) : Prop :=
  (∀ descriptor ∈ validator.attributes, descriptor.text?.isSome = true) ∧
    ∀ name ∈ names, name.IsName

instance (validator : Validator) (names : List Value) : Decidable (validator.Tells names) :=
  inferInstanceAs (Decidable (_ ∧ _))

/-- What a validator covers can be told exactly if the validator tells it, and it is those of its
attributes that are among the names. In one direction the two readings are taken apart, and what
they give is what the validator tells without them. -/
theorem coveredBy_eq_ok_iff {validator : Validator} {names : List Value} {found : List String} :
    validator.coveredBy (.list names) = .ok found ↔
      validator.Tells names ∧ validator.coveredNames names = found := by
  rw [coveredBy_list]
  constructor
  · intro told
    obtain ⟨ownNames, own, others⟩ := Outcome.bind_eq_ok_iff.1 told
    obtain ⟨named, requested, whole⟩ := Outcome.bind_eq_ok_iff.1 others
    have areTexts := Descriptor.texts_of_names own
    obtain rfl : validator.attributeNames = ownNames :=
      Except.ok.inj ((Descriptor.names_of_texts areTexts).symm.trans own)
    obtain ⟨rfl, areNames⟩ := Value.isName_of_asNames requested
    exact ⟨⟨areTexts, areNames⟩, Except.ok.inj whole⟩
  · rintro ⟨⟨areTexts, areNames⟩, rfl⟩
    rw [ownNames, Descriptor.names_of_texts areTexts, Value.asNames_of_isName areNames]
    rfl

/-- Whether a validator runs can be told exactly if it does not apply or tells what it covers, and
it runs if it applies and covers something. A validator that does not apply is not asked what it
covers, so it may be one that could not tell. -/
theorem isActive_eq_ok_iff {validator : Validator} {scenario : Value} {names : List Value}
    {runs : Bool} :
    validator.isActive scenario (.list names) = .ok runs ↔
      (validator.appliesTo scenario = true → validator.Tells names) ∧
        (validator.appliesTo scenario && !(validator.coveredNames names).isEmpty) = runs := by
  unfold isActive
  cases validator.appliesTo scenario with
  | false => simp
  | true =>
    simp only [↓reduceIte, Outcome.map_eq_ok_iff, coveredBy_eq_ok_iff, forall_const,
      Bool.true_and]
    constructor
    · rintro ⟨found, ⟨tells, rfl⟩, same⟩
      exact ⟨tells, same⟩
    · rintro ⟨tells, same⟩
      exact ⟨_, ⟨tells, rfl⟩, same⟩

end ValidatorOf

namespace Pass

/-- The validators that are active in a scenario tell what they cover among some names. -/
def Admits (scenario : Value) (names : List Value) (validators : List Validator) : Prop :=
  ∀ validator ∈ validators, validator.appliesTo scenario = true → validator.Tells names

instance (scenario : Value) (names : List Value) (validators : List Validator) :
    Decidable (Admits scenario names validators) :=
  inferInstanceAs (Decidable (∀ validator ∈ validators, _ → _))

/-- The validators that run can be chosen exactly if those that are active tell what they cover, and
then they are the active ones that cover something.

Proof: by induction on the validators, the first of which is chosen or not whatever the others
are. -/
theorem activeValidators_eq_ok_iff {scenario : Value} {names : List Value}
    {validators active : List Validator} :
    activeValidators scenario (.list names) validators = .ok active ↔
      Admits scenario names validators ∧ (validators.filter fun validator =>
        validator.appliesTo scenario && !(validator.coveredNames names).isEmpty) = active := by
  induction validators generalizing active with
  | nil => simp [activeValidators, Admits]
  | cons validator rest inductionHypothesis =>
    simp only [activeValidators, Outcome.bind_eq_ok_iff, ValidatorOf.isActive_eq_ok_iff,
      inductionHypothesis, Admits, List.forall_mem_cons, List.filter_cons]
    constructor
    · rintro ⟨runs, ⟨tells, rfl⟩, others, ⟨admits, rfl⟩, whole⟩
      exact ⟨⟨tells, admits⟩, Except.ok.inj whole⟩
    · rintro ⟨⟨tells, admits⟩, rfl⟩
      exact ⟨_, ⟨tells, rfl⟩, _, ⟨admits, rfl⟩, rfl⟩

/-- The turns of a pass over some names in a scenario: the validators that have a check and are
active there in their order, each with the attributes it covers in its own. -/
def turns (scenario : Value) (names : List Value) (validators : List Validator) : List Turn :=
  (validators.filter fun validator => validator.appliesTo scenario && validator.checks).flatMap
    fun validator => (validator.coveredNames names).map (Turn.mk validator)

/-- Validators that tell what they cover among some names tell it among fewer. -/
theorem Admits.mono {scenario : Value} {names fewer : List Value} {validators : List Validator}
    (admits : Admits scenario names validators) (among : ∀ name ∈ fewer, name ∈ names) :
    Admits scenario fewer validators := by
  intro validator present active
  obtain ⟨areTexts, areNames⟩ := admits validator present active
  exact ⟨areTexts, fun name asked => areNames name (among name asked)⟩

/-- A turn is of a validator that is active and has a check, at one of its attributes that is among
the names. -/
theorem of_mem_turns {scenario : Value} {names : List Value} {validators : List Validator}
    {turn : Turn} (taken : turn ∈ turns scenario names validators) :
    turn.validator ∈ validators ∧ turn.validator.appliesTo scenario = true ∧
      turn.name ∈ turn.validator.attributeNames ∧ names.contains (.text turn.name) = true := by
  obtain ⟨validator, kept, covers⟩ := List.mem_flatMap.1 taken
  obtain ⟨present, active⟩ := List.mem_filter.1 kept
  obtain ⟨name, covered, rfl⟩ := List.mem_map.1 covers
  obtain ⟨own, asked⟩ := List.mem_filter.1 covered
  exact ⟨present, (Bool.and_eq_true_iff.1 active).1, own, asked⟩

/-- A validator that is active and has a check takes a turn at each of its attributes that is among
the names. -/
theorem mem_turns {scenario : Value} {names : List Value} {validators : List Validator}
    {validator : Validator} {name : String} (present : validator ∈ validators)
    (active : validator.appliesTo scenario = true) (checks : validator.checks = true)
    (own : name ∈ validator.attributeNames) (asked : names.contains (.text name) = true) :
    ⟨validator, name⟩ ∈ turns scenario names validators := by
  refine List.mem_flatMap.2 ⟨validator, List.mem_filter.2 ⟨present, ?_⟩, ?_⟩
  · rw [active, checks, Bool.and_self]
  · exact List.mem_map_of_mem (List.mem_filter.2 ⟨own, asked⟩)

/-- The turns there are depend on nothing of the names but what is among them. Neither the order of
the names nor how often one occurs matters, since a validator goes through its own attributes. -/
theorem turns_congr {scenario : Value} {names others : List Value} (validators : List Validator)
    (same : ∀ name : Value, names.contains name = others.contains name) :
    turns scenario names validators = turns scenario others validators := by
  unfold turns ValidatorOf.coveredNames
  simp only [same]

/-- The turns at one of the names are those that there are if it is the only one. A name that equals
the one asked for is among the names exactly as that one is, so the test for membership can be
dropped. -/
theorem turns_singleton {scenario name : Value} {names : List Value} (validators : List Validator)
    (asked : names.contains name = true) :
    turns scenario [name] validators =
      (turns scenario names validators).filter fun turn => name == .text turn.name := by
  have alone : ∀ own : String,
      [name].contains (.text own) = ((name == .text own) && names.contains (.text own)) := by
    intro own
    rw [List.contains_cons, List.contains_nil, Bool.or_false, BEq.comm]
    cases about : name == .text own with
    | false => rfl
    | true => rw [← List.contains_congr about, asked, Bool.and_true]
  unfold turns ValidatorOf.coveredNames
  simp only [List.filter_flatMap, List.filter_map, List.filter_filter, alone]
  rfl

/-- If the validators that are active tell what they cover, the pass takes their turns.

Proof: a validator that covers nothing and one that has no check do nothing when they run. So the
validators chosen do what all active ones do, and those do what the active ones with a check do,
each of which takes its turns. -/
theorem runActive_of_admits (host : Host ρ) {scenario : Value} {names : List Value}
    {validators : List Validator} (admits : Admits scenario names validators) :
    runActive host scenario names validators =
      Turn.takeAll host (turns scenario names validators) := by
  have chosen := activeValidators_eq_ok_iff.2 ⟨admits, rfl⟩
  have covers : ∀ validator ∈ validators.filter (·.appliesTo scenario),
      validator.coveredBy (.list names) = .ok (validator.coveredNames names) := by
    intro validator kept
    obtain ⟨present, active⟩ := List.mem_filter.1 kept
    exact ValidatorOf.coveredBy_eq_ok_iff.2 ⟨admits validator present active, rfl⟩
  have idle : ∀ validator ∈ validators.filter (·.appliesTo scenario),
      (!(validator.coveredNames names).isEmpty) = false →
        validator.runOn host (.list names) = pure () := by
    intro validator kept bare
    have none : validator.coveredNames names = [] := by simpa using bare
    rw [ValidatorOf.runOn, covers validator kept, none, Act.ofOutcome_ok, pure_bind]
    split <;> rfl
  have unchecked : ∀ validator ∈ validators.filter (·.appliesTo scenario),
      validator.checks = false → validator.runOn host (.list names) = pure () := by
    intro validator _ without
    rw [ValidatorOf.runOn, without]
    rfl
  have takes : ∀ validator ∈ (validators.filter (·.appliesTo scenario)).filter (·.checks),
      validator.runOn host (.list names) =
        Turn.takeAll host ((validator.coveredNames names).map (Turn.mk validator)) := by
    intro validator kept
    obtain ⟨active, checks⟩ := List.mem_filter.1 kept
    rw [ValidatorOf.runOn, checks, covers validator active, Act.ofOutcome_ok, pure_bind,
      Turn.takeAll_map]
    rfl
  -- Both sides are brought to the active validators, each running on all the names.
  rw [runActive, chosen, Act.ofOutcome_ok, pure_bind, Act.forIn_eq_forM, turns,
    Turn.takeAll_flatMap]
  simp only [Bool.and_comm (ValidatorOf.appliesTo _ scenario), ← List.filter_filter]
  rw [Act.forM_filter _ _ _ idle, ← Act.forM_filter _ _ _ unchecked, Act.forM_congr takes]

/-- A pass takes its turns once it is settled that the validators tell what they cover. If some
validator cannot tell, the fault comes before any turn, and the right side stops there as well. -/
theorem runActive_eq_turns (host : Host ρ) (scenario : Value) (names : List Value)
    (validators : List Validator) :
    runActive host scenario names validators = (do
      let _ ← Act.ofOutcome (activeValidators scenario (.list names) validators)
      Turn.takeAll host (turns scenario names validators)) := by
  cases chosen : activeValidators scenario (.list names) validators with
  | error fault =>
    rw [runActive, chosen]
    rfl
  | ok active =>
    obtain ⟨admits, -⟩ := activeValidators_eq_ok_iff.1 chosen
    rw [runActive_of_admits host admits]
    rfl

end Pass

end RecordValidation
