import RecordValidation.Proofs.PlainRecords

/-!
# The first complaint about an attribute counts

`Pass.visits` is the journal of a pass: the turns that it takes, each with how it went. Where every
validator leaves out attributes that have errors, or transforms them and never complains,
`Pass.first_complaint_counts` reads the errors about an attribute off the journal. They are what the
first turn said that said anything about it, and at every later turn the attribute is left out
without a question.

Two facts about the turns carry this, both by induction on the turns that are left. As long as an
attribute has no errors it stays so until a turn complains about it (`Turn.first_complaint`); once
it has errors, they stay as they are (`Turn.quiet_of_has`).
-/

namespace RecordValidation

/-! ## What a verdict can be -/

namespace ValidatorOf

variable {ρ : Type}

/-- A complaint is worded as at most one message. -/
theorem gives_word (host : Host ρ) (name : Value) (complaint : Option Complaint) :
    Act.Gives (fun messages => messages.length ≤ 1) (word host name complaint) := by
  cases complaint with
  | none => exact Act.gives_pure (Nat.zero_le 1)
  | some complaint =>
    rw [word, map_eq_pure_bind]
    exact Act.gives_bind _ fun message => Act.gives_pure (Nat.le_refl 1)

/-- Only a function that is called for complaints can give more than one message. The built-in
checks word what they find as a complaint, of which there is at most one, or write a value and
complain about nothing. -/
theorem gives_verdict_of_not_inline (host : Host ρ) {validator : Validator} (name : Value)
    (builtIn : validator.check.kind ≠ .inline) :
    Act.Gives (fun messages => messages.length ≤ 1) (validator.verdict host name) := by
  unfold verdict
  cases kind : validator.check with
  | safe => exact Act.gives_pure (Nat.zero_le 1)
  | alwaysFails => exact Act.gives_pure (Nat.le_refl 1)
  | compare other constant relation comparedAs =>
    refine Act.gives_bind _ fun value => Act.gives_bind _ fun target => ?_
    exact Act.gives_bind _ fun complaint => gives_word host name complaint
  | default value => exact Act.gives_bind _ fun _ => Act.gives_pure (Nat.zero_le 1)
  | filter function skipList => exact Act.gives_bind _ fun _ => Act.gives_pure (Nat.zero_le 1)
  | inline method params bound =>
    rw [kind] at builtIn
    exact absurd rfl builtIn
  | _ =>
    refine Act.gives_bind _ fun value => ?_
    exact Act.gives_bind _ fun complaint => gives_word host name complaint

/-- A validator that transforms attributes never complains. -/
theorem gives_verdict_of_transforms (host : Host ρ) {validator : Validator} (name : Value)
    (transforms : validator.transforms = true) :
    Act.Gives (fun messages => messages = []) (validator.verdict host name) := by
  unfold verdict
  cases kind : validator.check with
  | default value => exact Act.gives_bind _ fun _ => Act.gives_pure rfl
  | filter function skipList => exact Act.gives_bind _ fun _ => Act.gives_pure rfl
  | _ =>
    rw [ValidatorOf.transforms, kind] at transforms
    cases transforms

end ValidatorOf

/-! ## One turn -/

namespace Turn

variable {ρ : Type} {host : Host ρ} {turn : Turn}

/-- The messages that come of a turn have what holds of no messages and of every verdict. Apart from
a verdict, a turn has no messages, and a turn that stops has none either. -/
theorem messages_course (property : List Value → Prop) (none : property [])
    (held : Act.Gives property (turn.validator.verdict host (.text turn.name)))
    (session : Session ρ) : property (turn.course host session).messages := by
  have asked : Act.Gives (fun course => property course.messages) (turn.ask host) := by
    refine Act.gives_bind _ fun empty => ?_
    split
    · exact Act.gives_pure none
    refine Act.gives_bind _ fun refused => ?_
    split
    · exact Act.gives_pure none
    exact held.bind fun messages said => Act.gives_pure said
  have taken : Act.Gives (fun course => property course.messages) (turn.take host) := by
    refine Act.gives_bind _ fun failing => ?_
    split
    · exact Act.gives_pure none
    exact asked.bind fun course said => Act.gives_bind _ fun _ => Act.gives_pure said
  unfold Turn.course
  cases done : (turn.take host).outcome session with
  | ok course => exact taken session course done
  | error fault => exact none

/-- A turn that has nothing to say about an attribute leaves its entry among the errors. At another
attribute messages may come of it, but they are not added to this entry. -/
theorem entry_take (calls : turn.validator.CallsKeep host Session.errors) (session : Session ρ)
    {name : Value}
    (quiet : name = .text turn.name → (turn.course host session).messages = []) :
    ((turn.take host).final session).errors.messages.get? name =
      session.errors.messages.get? name := by
  rw [errors_take calls]
  by_cases about : name = .text turn.name
  · rw [quiet about]
    rfl
  · refine ErrorBag.get?_addEach_of_unlike _ _ ?_
    rw [Bool.eq_false_iff]
    intro same
    exact about ((Value.text_beq_iff turn.name name).1 (BEq.symm same))

end Turn

/-! ## The journal -/

/-- A turn that was taken, and how it went. -/
structure Visit where
  turn : Turn
  course : Course

/-- In some visits nothing is said about an attribute. -/
def Quiet (name : Value) (visits : List Visit) : Prop :=
  ∀ visit ∈ visits, name = .text visit.turn.name → visit.course.messages = []

/-- In some visits, validators that leave out attributes that have errors ask nothing at an
attribute. -/
def Unasked (name : Value) (visits : List Visit) : Prop :=
  ∀ visit ∈ visits, name = .text visit.turn.name →
    visit.turn.validator.skipOnError.truthy = true → visit.course = .failing

/-- What some visits and the errors after them come to for an attribute, if only the first complaint
counts: nothing was said about it and it has no errors, or what was said first is what it has, and
nothing was asked at it after that. -/
def FirstCounts (name : Value) (visits : List Visit) (errors : ErrorBag) : Prop :=
  Quiet name visits ∧ errors.get name = [] ∨
    ∃ earlier turn messages later, visits = earlier ++ ⟨turn, .answered messages⟩ :: later ∧
      name = .text turn.name ∧ messages ≠ [] ∧ Quiet name earlier ∧
      errors.get name = messages ∧ Unasked name later

/-- A visit in which nothing is said about the attribute makes no difference. -/
theorem FirstCounts.cons {name : Value} {visit : Visit} {visits : List Visit} {errors : ErrorBag}
    (quiet : name = .text visit.turn.name → visit.course.messages = [])
    (counts : FirstCounts name visits errors) : FirstCounts name (visit :: visits) errors := by
  obtain ⟨silent, without⟩ |
    ⟨earlier, first, messages, later, rfl, about, complains, silent, rest⟩ := counts
  · exact .inl ⟨List.forall_mem_cons.2 ⟨quiet, silent⟩, without⟩
  · exact .inr ⟨visit :: earlier, first, messages, later, rfl, about, complains,
      List.forall_mem_cons.2 ⟨quiet, silent⟩, rest⟩

namespace Turn

variable {ρ : Type} (host : Host ρ)

/-- The turns that are taken from a session, until one stops, and how they go. -/
def visits : List Turn → Session ρ → List Visit
  | [], _ => []
  | turn :: rest, session =>
    ⟨turn, turn.course host session⟩ ::
      match (turn.take host).outcome session with
      | .ok _ => visits rest ((turn.take host).final session)
      | .error _ => []

/-- The visits are those of the first turns. -/
theorem visits_prefix (turns : List Turn) (session : Session ρ) :
    (visits host turns session).map Visit.turn <+: turns := by
  induction turns generalizing session with
  | nil => exact List.prefix_rfl
  | cons turn rest inductionHypothesis =>
    rw [visits, List.map_cons, List.cons_prefix_cons]
    refine ⟨rfl, ?_⟩
    split
    · exact inductionHypothesis _
    · exact List.nil_prefix

/-- A visit is to one of the turns, and goes as that turn goes from some session. The session is the
one the earlier turns leave; which it is does not matter to those that ask how a turn can go at
all. -/
theorem course_of_mem_visits {turns : List Turn} {session : Session ρ} {visit : Visit}
    (visited : visit ∈ visits host turns session) :
    visit.turn ∈ turns ∧ ∃ reached, visit.course = visit.turn.course host reached := by
  induction turns generalizing session with
  | nil => cases visited
  | cons turn rest inductionHypothesis =>
    rw [visits, List.mem_cons] at visited
    obtain rfl | later := visited
    · exact ⟨List.mem_cons_self, session, rfl⟩
    · split at later
      · obtain ⟨present, went⟩ := inductionHypothesis later
        exact ⟨List.mem_cons_of_mem _ present, went⟩
      · cases later

/-- A validator either transforms attributes or leaves out those that have errors. -/
def Yields (turn : Turn) : Prop :=
  turn.validator.transforms = true ∨ turn.validator.skipOnError.truthy = true

instance (turn : Turn) : Decidable turn.Yields := inferInstanceAs (Decidable (_ ∨ _))

/-- Once an attribute has errors, they stay: validators that leave out attributes that have errors
ask nothing at it, and the others have nothing to say.

Proof: by induction on the turns. A turn at the attribute adds no message, whether it leaves the
attribute out or transforms it, and a turn at another adds its messages elsewhere. -/
theorem quiet_of_has {name : Value} {turns : List Turn} {session : Session ρ}
    (yields : ∀ turn ∈ turns, turn.Yields)
    (calls : ∀ turn ∈ turns, turn.validator.CallsKeep host Session.errors)
    (failing : session.errors.has name = true) :
    Quiet name (visits host turns session) ∧ Unasked name (visits host turns session) ∧
      ((takeAll host turns).final session).errors.messages.get? name =
        session.errors.messages.get? name := by
  induction turns generalizing session with
  | nil =>
    refine ⟨?_, ?_, rfl⟩ <;>
    · intro visit visited
      cases visited
  | cons turn rest inductionHypothesis =>
    rw [List.forall_mem_cons] at yields calls
    have unasked : name = .text turn.name → turn.validator.skipOnError.truthy = true →
        turn.course host session = .failing := by
      rintro rfl skips
      rw [course_eq_failing_iff, leavesOut, skips, failing]
      rfl
    have quiet : name = .text turn.name → (turn.course host session).messages = [] := by
      intro about
      obtain transforms | skips := yields.1
      · exact messages_course (· = []) rfl
          (ValidatorOf.gives_verdict_of_transforms host _ transforms) session
      · rw [unasked about skips]
        rfl
    have kept := entry_take calls.1 session quiet
    have stillFailing : ((turn.take host).final session).errors.has name = true := by
      rw [ErrorBag.has, OrderedMap.contains, kept]
      exact failing
    obtain ⟨restQuiet, restUnasked, restKept⟩ :=
      inductionHypothesis yields.2 calls.2 stillFailing
    rw [visits, final_takeAll_cons]
    cases (turn.take host).outcome session with
    | ok course =>
      exact ⟨List.forall_mem_cons.2 ⟨quiet, restQuiet⟩,
        List.forall_mem_cons.2 ⟨unasked, restUnasked⟩, restKept.trans kept⟩
    | error fault =>
      exact ⟨List.forall_mem_cons.2 ⟨quiet, List.forall_mem_nil _⟩,
        List.forall_mem_cons.2 ⟨unasked, List.forall_mem_nil _⟩, kept⟩

/-- A turn of which messages come is one whose check answered with them. A turn that stops and one
that leaves the attribute out come with no messages. -/
theorem outcome_of_complains {turn : Turn} {session : Session ρ}
    (complains : (turn.course host session).messages ≠ []) :
    (turn.take host).outcome session =
      .ok (.answered (turn.course host session).messages) := by
  unfold course at *
  cases done : (turn.take host).outcome session with
  | error fault =>
    rw [done] at complains
    exact absurd rfl complains
  | ok course =>
    rw [done] at complains
    cases course with
    | answered messages => rfl
    | failing | empty | refused | stopped => exact absurd rfl complains

/-- As long as an attribute has no errors, it gets those of the first turn that complains about it
and keeps them.

Proof: by induction on the turns. A turn that has nothing to say about the attribute leaves it
without errors, and what holds of the turns behind it holds with it. A turn that complains gives it
errors, and then nothing changes any more. -/
theorem first_complaint {name : Value} {turns : List Turn} {session : Session ρ}
    (yields : ∀ turn ∈ turns, turn.Yields)
    (calls : ∀ turn ∈ turns, turn.validator.CallsKeep host Session.errors)
    (clean : session.errors.messages.get? name = none) :
    FirstCounts name (visits host turns session)
      ((takeAll host turns).final session).errors := by
  induction turns generalizing session with
  | nil =>
    refine .inl ⟨List.forall_mem_nil _, ?_⟩
    exact congrArg (·.getD []) clean
  | cons turn rest inductionHypothesis =>
    rw [List.forall_mem_cons] at yields calls
    by_cases quiet : name = .text turn.name → (turn.course host session).messages = []
    · have kept := (entry_take calls.1 session quiet).trans clean
      have others := inductionHypothesis yields.2 calls.2 kept
      rw [visits, final_takeAll_cons]
      cases (turn.take host).outcome session with
      | ok course => exact others.cons quiet
      | error fault =>
        exact FirstCounts.cons quiet
          (.inl ⟨List.forall_mem_nil _, congrArg (·.getD []) kept⟩)
    · -- Now the attribute has errors, so the turns behind this one fall under `quiet_of_has`.
      obtain ⟨rfl, complains⟩ := Classical.not_imp.1 quiet
      have answered := outcome_of_complains host complains
      have became : ((turn.take host).final session).errors.get (.text turn.name) =
          (turn.course host session).messages := by
        rw [errors_take calls.1, ErrorBag.get_addEach_self, ErrorBag.get, clean]
        rfl
      have failing : ((turn.take host).final session).errors.has (.text turn.name) = true :=
        ErrorBag.has_of_get_ne_nil (became ▸ complains)
      obtain ⟨-, unasked, kept⟩ := quiet_of_has host yields.2 calls.2 failing
      rw [visits, final_takeAll_cons, answered]
      refine .inr ⟨[], turn, _, _, ?_, rfl, complains, List.forall_mem_nil _, ?_, unasked⟩
      · rw [course, answered]
        rfl
      · exact (congrArg (·.getD []) kept).trans became

end Turn

/-! ## The whole pass -/

namespace Pass

variable {ρ : Type} {host : Host ρ} {pass : Pass ρ} {session : Session ρ}

/-- The turns that a pass settles; none if it is called off or stops before. -/
def turnsFrom (host : Host ρ) (pass : Pass ρ) (session : Session ρ) : List Turn :=
  match (pass.enter host).outcome (start pass.clears session) with
  | .ok (some turns) => turns
  | _ => []

/-- The journal of a pass: the turns it takes and how they go. -/
def visits (host : Host ρ) (pass : Pass ρ) (session : Session ρ) : List Visit :=
  Turn.visits host (pass.turnsFrom host session)
    ((pass.enter host).final (start pass.clears session))

/-- Nothing that a pass calls touches the errors: neither the observers nor what gives the scenario
map and the validators nor the functions called for complaints. -/
structure LeavesErrors (host : Host ρ) (pass : Pass ρ) (session : Session ρ) : Prop where
  before : ∀ hook ∈ pass.before, Act.Keeps Session.errors (hook.run host)
  scenarioMap : Act.Keeps Session.errors pass.scenarioMap
  validators : Act.Keeps Session.errors pass.validators
  complaints : ∀ turn ∈ pass.turnsFrom host session,
    turn.validator.CallsKeep host Session.errors
  after : ∀ hook ∈ pass.after, Act.Keeps Session.errors (hook.run host)

/-- Observers that leave the errors do so one after the other. The observers after one that calls
the pass off run too, so the induction is over all of them. -/
theorem keepsErrors_opens {hooks : List Hook}
    (leave : ∀ hook ∈ hooks, Act.Keeps Session.errors (hook.run host)) :
    Act.Keeps Session.errors (opens host hooks) := by
  have closed := Act.compositional_keeps (ρ := ρ) Session.errors
  induction hooks with
  | nil => exact closed.pure true
  | cons hook rest inductionHypothesis =>
    rw [List.forall_mem_cons] at leave
    refine closed.bind leave.1 fun answer => ?_
    exact closed.bind (inductionHypothesis leave.2) fun others => closed.pure _

/-- What comes before the turns leaves the errors. -/
theorem keepsErrors_enter (leaves : pass.LeavesErrors host session) :
    Act.Keeps Session.errors (pass.enter host) := by
  have closed := Act.compositional_keeps (ρ := ρ) Session.errors
  refine closed.bind (keepsErrors_opens leaves.before) fun goesOn => ?_
  split
  · exact closed.map _
      (holds_settle closed Act.keeps_ofOutcome leaves.scenarioMap leaves.validators)
  · exact closed.bind (Act.keeps_modify fun _ => rfl) fun _ => closed.pure none

/-- What comes after the turns leaves the errors. -/
theorem keepsErrors_conclude (leaves : pass.LeavesErrors host session) :
    Act.Keeps Session.errors (pass.conclude host) := by
  have closed := Act.compositional_keeps (ρ := ρ) Session.errors
  have observed : Act.Keeps Session.errors (runAll host pass.after) :=
    closed.forM pass.after fun hook listed =>
      closed.bind (leaves.after hook listed) fun _ => closed.pure ()
  refine closed.bind observed fun _ => closed.bind Act.keeps_errors fun errors => ?_
  exact closed.bind (Act.keeps_modify fun _ => rfl) fun _ => closed.pure _

/-- The errors that a pass leaves are those that its turns leave. The stages before the turns and
after them leave the errors, so only what the turns do is left; a pass without turns leaves what it
starts with. -/
theorem errors_run (leaves : pass.LeavesErrors host session) :
    ((pass.run host).final session).errors =
      ((Turn.takeAll host (pass.turnsFrom host session)).final
        ((pass.enter host).final (start pass.clears session))).errors := by
  have stages : (pass.run host).final session =
      (pass.enter host >>= pass.finish host).final (start pass.clears session) := by
    rw [Act.final, run_eq_stages, Act.final]
  rw [stages, Act.final_bind]
  unfold turnsFrom
  rcases (pass.enter host).outcome (start pass.clears session) with fault | _ | turns
  · rfl
  · rfl
  · have concluded : Act.Keeps Session.errors (pass.conclude host) := keepsErrors_conclude leaves
    simp only [finish, Act.final_bind]
    cases (Turn.takeAll host turns).outcome
        ((pass.enter host).final (start pass.clears session)) with
    | ok done => exact concluded _
    | error fault => rfl

/-- In a pass that starts without errors, in which nothing that is called touches the errors and
every validator transforms attributes or leaves out those that have errors, only the first complaint
about an attribute counts.

The turns are taken in their order, the validators one after the other and each of them its
attributes, until one stops. Either no turn at the attribute says anything and it has no errors in
the end; or its errors are what one turn answered, the first to say anything about it, and at no
later turn does a validator that leaves out attributes that have errors ask anything about it. If
none of the validators calls a function for complaints, that is at most one message. -/
theorem first_complaint_counts (host : Host ρ) (pass : Pass ρ) (session : Session ρ) (name : Value)
    (clean : pass.clears = true ∨ session.errors = .empty)
    (leaves : pass.LeavesErrors host session)
    (yields : ∀ turn ∈ pass.turnsFrom host session, turn.Yields) :
    (pass.visits host session).map Visit.turn <+: pass.turnsFrom host session ∧
      FirstCounts name (pass.visits host session) ((pass.run host).final session).errors ∧
      ((∀ turn ∈ pass.turnsFrom host session, turn.validator.check.kind ≠ .inline) →
        (((pass.run host).final session).errors.get name).length ≤ 1) := by
  have entered : ((pass.enter host).final (start pass.clears session)).errors = .empty := by
    rw [keepsErrors_enter leaves, errors_start clean]
  have without : ((pass.enter host).final (start pass.clears session)).errors.messages.get? name =
      none := by
    rw [entered]
    rfl
  have counts : FirstCounts name (pass.visits host session)
      ((pass.run host).final session).errors := by
    rw [errors_run leaves]
    exact Turn.first_complaint host yields leaves.complaints without
  refine ⟨Turn.visits_prefix host _ _, counts, fun builtIn => ?_⟩
  obtain ⟨-, none⟩ | ⟨earlier, turn, messages, later, journal, -, -, -, has, -⟩ := counts
  · rw [none]
    exact Nat.zero_le 1
  · have visited : ⟨turn, .answered messages⟩ ∈ pass.visits host session := by
      rw [journal]
      exact List.mem_append_right _ List.mem_cons_self
    obtain ⟨present, reached, went⟩ := Turn.course_of_mem_visits host visited
    have few := Turn.messages_course (fun messages => messages.length ≤ 1) (Nat.zero_le 1)
      (turn.validator.gives_verdict_of_not_inline host _ (builtIn turn present)) reached
    rw [has]
    rw [← went] at few
    exact few

/-- In a pass over a plain record nothing that is called can touch the errors. That leaves the parts
of the pass that do not come from the record, its scenarios and its validators. -/
theorem leavesErrors_of_plain (plain : PlainRecord) {pass : Pass PlainRecord}
    {session : Session PlainRecord} (scenarioMap : Act.Keeps Session.errors pass.scenarioMap)
    (validators : Act.Keeps Session.errors pass.validators) :
    pass.LeavesErrors plain.host session where
  before hook _ := plain.keepsErrors_hook hook
  scenarioMap := scenarioMap
  validators := validators
  complaints turn _ := plain.callsKeep_errors turn.validator
  after hook _ := plain.keepsErrors_hook hook

/-- Validators of a nickname and an age. The age is filled in; nothing is said about the nickname
first, then two things, twice over, and then one more about either. -/
def nicknameValidators : List Validator := [
  { Validator.marking [.text "age"] [] [] with
    skipOnError := .bool false, skipOnEmpty := .bool false, check := .default (.int 1) },
  { Validator.marking [.text "nick"] [] [] with
    check := .inline (.script (.inline [] .null)) .null .null },
  { Validator.marking [.text "nick", .text "!nick"] [] [] with
    check := .inline (.script (.inline [] (.list [.text "short", .text "taken"]))) .null .null },
  { Validator.marking [.text "age", .text "nick"] [] [] with check := .alwaysFails }]

/-- Of all that is said about the nickname only what was said first counts, both parts of it and
once. -/
theorem first_complaint_counts_nickname :
    let record : PlainRecord := { values := ⟨[(.text "nick", .text "x")]⟩, labels := none }
    let session : Session PlainRecord := { record, errors := .empty, events := [] }
    let pass : Pass PlainRecord := {
      scenario := .text "default", names := .null, clears := false
      before := [⟨[.note "opened"], .null⟩], after := [⟨[.note "closed"], .null⟩]
      scenarioMap := Act.ofOutcome (resolve (.text "default") nicknameValidators)
      validators := return nicknameValidators }
    FirstCounts (.text "nick") (pass.visits record.host session)
        ((pass.run record.host).final session).errors ∧
      ((pass.run record.host).final session).errors =
        ⟨⟨[(.text "nick", [.text "short", .text "taken"]), (.text "age", [.text "nope"])]⟩⟩ := by
  intro record session pass
  have leaves : pass.LeavesErrors record.host session :=
    leavesErrors_of_plain record
      (Act.keeps_ofOutcome (resolve (.text "default") nicknameValidators)) fun _ => rfl
  have yields : ∀ turn ∈ pass.turnsFrom record.host session, turn.Yields := by decide
  obtain ⟨-, counts, -⟩ := first_complaint_counts record.host pass session (.text "nick")
    (.inr rfl) leaves yields
  exact ⟨counts, rfl⟩

end Pass

end RecordValidation
