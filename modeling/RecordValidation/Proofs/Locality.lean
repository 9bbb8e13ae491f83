import RecordValidation.Proofs.PlainRecords

/-!
# Attributes are checked apart from each other

All attributes of a pass share one bag of errors, and every turn looks into it. On a plain record
that the validators only check, `Pass.checks_apart` says that they might as well not: an attribute
has the messages that it has if it is checked alone, whatever else is checked.

On such a record a turn answers the same whenever it is taken, so all turns come to a `tally`: a
fold over the errors that asks nothing but those answers (`Turn.takeAll_eq_tally`). Of that fold,
`Turn.tally_filter` says that the entry of an attribute depends on nothing but the turns at it. It
is a simulation between two folds of different lengths: their errors agree on one attribute, and a
turn that is in only one of them is at another attribute.
-/

namespace RecordValidation

/-- A validator checks attributes of a record and writes none: it does not transform them, and the
function that it calls for complaints leaves the record as it was. -/
def ValidatorOf.ChecksOnly {ρ : Type} (host : Host ρ) (validator : Validator) : Prop :=
  validator.transforms = false ∧ validator.CallsKeep host Session.record

namespace Turn

variable {ρ : Type}

/-- What comes of asking all there is to ask in a turn on a record. -/
def answer (host : Host ρ) (record : ρ) (turn : Turn) : Outcome Course :=
  (turn.ask host).outcome { record, errors := .empty, events := [] }

/-- How a turn goes with some errors there are, if its answer is known. -/
def goes (answer : Turn → Outcome Course) (errors : ErrorBag) (turn : Turn) : Outcome Course :=
  if turn.leavesOut errors then .ok .failing else answer turn

/-- What turns come to whose answers are known: the errors they leave, and what they stop with. -/
def tally (answer : Turn → Outcome Course) : List Turn → ErrorBag → ErrorBag × Outcome Unit
  | [], errors => (errors, .ok ())
  | turn :: rest, errors =>
    match turn.goes answer errors with
    | .ok course => tally answer rest (errors.addEach (.text turn.name) course.messages)
    | .error fault => (errors, .error fault)

/-- What is asked in a turn of a validator that only checks leaves the record. Of what is asked only
a transformation and a function that is called for complaints could write, and the premise speaks of
both. -/
theorem keepsRecord_ask {host : Host ρ} {turn : Turn} (checks : turn.validator.ChecksOnly host) :
    Act.Keeps Session.record (turn.ask host) := by
  refine holds_ask (host.keepsOffers Session.record) turn ?_ ?_
  · intro transforms
    rw [checks.1] at transforms
    cases transforms
  · intro method params bound isInline
    exact checks.2 method params bound isInline _

/-- On a plain record, the questions of a turn are answered from the record. -/
theorem outcome_ask (plain : PlainRecord) (turn : Turn) (session : Session PlainRecord) :
    (turn.ask plain.host).outcome session = turn.answer plain.host session.record := by
  exact (plain.seesOnly_ask turn session ⟨session.record, .empty, []⟩ rfl).1

/-- A turn of a validator that only checks leaves the record. The messages go to the errors, and
adding one leaves the record. -/
theorem keepsRecord_take {host : Host ρ} {turn : Turn} (checks : turn.validator.ChecksOnly host) :
    Act.Keeps Session.record (turn.take host) :=
  keeps_take (keepsRecord_ask checks) fun _ => (Act.compositional_keeps _).bind
    (Act.keeps_ofOutcome _) fun _ => Act.keeps_modify fun _ => rfl

/-- On a plain record, a turn goes as its answer and the errors have it. What is asked there sees
only the record, so it may as well be asked of a session without errors. -/
theorem outcome_take_eq_goes (plain : PlainRecord) (turn : Turn) (session : Session PlainRecord) :
    (turn.take plain.host).outcome session =
      turn.goes (answer plain.host session.record) session.errors := by
  rw [outcome_take, outcome_ask, goes]

/-- Turns of validators that only check a plain record leave the record and come to their tally.

Proof: by induction on the turns. Because a turn leaves the record, the turns behind it answer as
they did before it. -/
theorem takeAll_eq_tally (plain : PlainRecord) {turns : List Turn}
    (checks : ∀ turn ∈ turns, turn.validator.ChecksOnly plain.host)
    (session : Session PlainRecord) :
    (takeAll plain.host turns).outcome session =
        (tally (answer plain.host session.record) turns session.errors).2 ∧
      ((takeAll plain.host turns).final session).errors =
        (tally (answer plain.host session.record) turns session.errors).1 ∧
      ((takeAll plain.host turns).final session).record = session.record := by
  induction turns generalizing session with
  | nil => exact ⟨rfl, rfl, rfl⟩
  | cons turn rest inductionHypothesis =>
    rw [List.forall_mem_cons] at checks
    have record := keepsRecord_take checks.1 session
    have errors := errors_take (plain.callsKeep_errors turn.validator) session
    have others := inductionHypothesis checks.2 ((turn.take plain.host).final session)
    rw [course, outcome_take_eq_goes] at errors
    rw [record, errors] at others
    rw [outcome_takeAll_cons, final_takeAll_cons, tally, outcome_take_eq_goes]
    cases went : turn.goes (answer plain.host session.record) session.errors with
    | ok course =>
      rw [went] at others
      exact others
    | error fault =>
      rw [went] at errors
      exact ⟨rfl, errors, record⟩

/-- What turns come to for an attribute is what those at it come to, if none of them stops: their
errors agree on the attribute in the end if they did so in the beginning.

Proof: by induction on the turns. A turn at the attribute is in both lists, and goes the same way in
both; a turn at another attribute touches the entry in neither. -/
theorem tally_filter {answer : Turn → Outcome Course} {turns : List Turn} (name : Value)
    {errors : ErrorBag} (alone : ErrorBag)
    (same : errors.messages.get? name = alone.messages.get? name)
    (completes : (tally answer turns errors).2 = .ok ()) :
    (tally answer (turns.filter fun turn => name == .text turn.name) alone).2 = .ok () ∧
      (tally answer turns errors).1.messages.get? name =
        (tally answer (turns.filter fun turn => name == .text turn.name) alone).1.messages.get?
          name := by
  induction turns generalizing errors alone with
  | nil => exact ⟨rfl, same⟩
  | cons turn rest inductionHypothesis =>
    rw [tally] at completes ⊢
    cases went : turn.goes answer errors with
    | error fault =>
      rw [went] at completes
      cases completes
    | ok course =>
      rw [went] at completes
      by_cases about : (name == .text turn.name) = true
      · -- Whether the turn leaves the attribute out depends on its entry alone, which is the same.
        have kept : (turn :: rest).filter (fun other => name == .text other.name) =
            turn :: rest.filter fun other => name == .text other.name := by
          rw [List.filter_cons, if_pos about]
        obtain rfl : name = .text turn.name :=
          (Value.text_beq_iff turn.name name).1 (BEq.symm about)
        have alike : turn.goes answer alone = .ok course := by
          rw [← went, goes, goes, leavesOut, leavesOut, ErrorBag.has, ErrorBag.has,
            OrderedMap.contains, OrderedMap.contains, same]
        rw [kept, tally, alike]
        exact inductionHypothesis _ (ErrorBag.get?_addEach_congr course.messages same) completes
      · have dropped : (turn :: rest).filter (fun other => name == .text other.name) =
            rest.filter fun other => name == .text other.name := by
          rw [List.filter_cons, if_neg about]
        rw [dropped]
        refine inductionHypothesis _ ?_ completes
        rw [ErrorBag.get?_addEach_of_unlike errors course.messages (Bool.eq_false_iff.2 about),
          same]

/-- Turns end well if none of their answers is a fault. -/
theorem tally_completes {answer : Turn → Outcome Course} {turns : List Turn}
    (answers : ∀ turn ∈ turns, ∀ fault, answer turn ≠ .error fault) (errors : ErrorBag) :
    (tally answer turns errors).2 = .ok () := by
  induction turns generalizing errors with
  | nil => rfl
  | cons turn rest inductionHypothesis =>
    rw [List.forall_mem_cons] at answers
    rw [tally]
    cases went : turn.goes answer errors with
    | ok course => exact inductionHypothesis answers.2 _
    | error fault =>
      unfold goes at went
      split at went
      · cases went
      · exact absurd went (answers.1 fault)

/-- Turns that end well leave nothing for an attribute at which there is no turn. -/
theorem tally_get_eq_nil {answer : Turn → Outcome Course} {turns : List Turn} {name : Value}
    (elsewhere : ∀ turn ∈ turns, (name == .text turn.name) = false)
    (completes : (tally answer turns .empty).2 = .ok ()) :
    (tally answer turns .empty).1.get name = [] := by
  have none : turns.filter (fun turn => name == .text turn.name) = [] :=
    List.filter_eq_nil_iff.2 fun turn taken => by simp [elsewhere turn taken]
  obtain ⟨-, same⟩ := tally_filter name .empty rfl completes
  rw [none, tally] at same
  rw [ErrorBag.get, same]
  rfl

end Turn

namespace Pass

variable {ρ : Type}

/-- Check some names of a record in a scenario with nobody observing it. -/
def checkNames (host : Host ρ) (scenarios : ScenarioMap) (validators : List Validator)
    (scenario : Value) (clears : Bool) (names : List Value) : Act ρ Bool :=
  (unobserved (.ok scenarios) validators scenario (.list names) clears).run host

/-- In a declared scenario, checking some names ends well exactly if the active validators tell what
they cover and their turns end well, and then reports what they leave. A declared scenario leaves
only one way to stop before the turns, and the report behind them cannot stop. -/
theorem checkNames_eq_ok_iff (host : Host ρ) {scenarios : ScenarioMap} {scenario : Value}
    (declared : scenarios.declares scenario = .ok true) (names : List Value)
    (validators : List Validator) (clears : Bool) {session after : Session ρ} {valid : Bool} :
    (checkNames host scenarios validators scenario clears names).run session =
        .ok valid after ↔
      Admits scenario names validators ∧ ∃ done,
        (Turn.takeAll host (turns scenario names validators)).run (start clears session) =
            .ok () done ∧
          valid = done.errors.isEmpty ∧
          after = { done with
            events := done.events ++ [.validated host.typeName scenario done.errors.size] } := by
  have planned : ∀ found, (unobserved (ρ := ρ) (.ok scenarios) validators scenario (.list names)
        clears).turnsIn (.ok scenarios) validators = .ok found ↔
      Admits scenario names validators ∧ turns scenario names validators = found := by
    intro found
    rw [turnsIn_eq_ok_iff]
    constructor
    · rintro ⟨known, same, -, asked, listed, has⟩
      cases same
      cases listed
      exact has
    · intro has
      exact ⟨scenarios, rfl, declared, names, rfl, has⟩
  rw [checkNames, run_unobserved]
  cases plan : (unobserved (ρ := ρ) (.ok scenarios) validators scenario (.list names)
      clears).turnsIn (.ok scenarios) validators with
  | error fault =>
    have tells : ¬ Admits scenario names validators := by
      intro admits
      rw [(planned _).2 ⟨admits, rfl⟩] at plan
      cases plan
    simp [tells]
  | ok found =>
    obtain ⟨admits, rfl⟩ := (planned found).1 plan
    simp only [admits, true_and]
    cases (Turn.takeAll host (turns scenario names validators)).run (start clears session) with
    | error fault done => simp
    | ok result done =>
      simp only [EStateM.Result.ok.injEq, true_and]
      constructor
      · rintro ⟨rfl, rfl⟩
        exact ⟨done, rfl, rfl, rfl⟩
      · rintro ⟨other, rfl, rfl, rfl⟩
        exact ⟨rfl, rfl⟩

section

variable (plain : PlainRecord) {scenarios : ScenarioMap} {scenario : Value}
  (declared : scenarios.declares scenario = .ok true) {validators : List Validator}
  (checksOnly : ∀ validator ∈ validators, validator.appliesTo scenario = true →
    validator.ChecksOnly plain.host)
  (clears : Bool) {session : Session PlainRecord}
  (clean : clears = true ∨ session.errors = .empty)

include declared checksOnly clean

/-- Names that are only checked are checked well exactly if the active validators tell what they
cover and the tally of their turns ends well, and it is the tally that is left for the errors. It
comes in two halves, because ending well gives the tally and takes nothing but the tally to be
shown. -/
theorem checkNames_of_checksOnly (names : List Value) :
    (∀ valid after,
      (checkNames plain.host scenarios validators scenario clears names).run session =
          .ok valid after →
        Admits scenario names validators ∧
          Turn.tally (Turn.answer plain.host session.record) (turns scenario names validators)
            .empty = (after.errors, .ok ())) ∧
    (Admits scenario names validators →
      (Turn.tally (Turn.answer plain.host session.record) (turns scenario names validators)
        .empty).2 = .ok () →
        ∃ valid after,
          (checkNames plain.host scenarios validators scenario clears names).run session =
            .ok valid after) := by
  have checks : ∀ turn ∈ turns scenario names validators,
      turn.validator.ChecksOnly plain.host := by
    intro turn taken
    obtain ⟨present, active, -⟩ := of_mem_turns taken
    exact checksOnly _ present active
  obtain ⟨outcome, errors, -⟩ := Turn.takeAll_eq_tally plain checks (start clears session)
  rw [errors_start clean] at outcome errors
  constructor
  · intro valid after done
    obtain ⟨admits, left, taken, rfl, rfl⟩ := (checkNames_eq_ok_iff _ declared _ _ _).1 done
    obtain ⟨ends, rfl⟩ := Act.run_eq_ok_iff.1 taken
    exact ⟨admits, Prod.ext errors.symm (outcome.symm.trans ends)⟩
  · intro admits completes
    exact ⟨_, _, (checkNames_eq_ok_iff _ declared _ _ _).2
      ⟨admits, _, Act.run_eq_ok_iff.2 ⟨outcome.trans completes, rfl⟩, rfl, rfl⟩⟩

end

/-- Attributes are checked apart from each other.

Take a plain record, a declared scenario, and validators of which those active there only check.
Checking some names without errors to begin with ends well if the active validators tell what they
cover and none of the answers at this record is a fault. Whenever it ends well, each of the names
has the messages that it has if it is checked alone, and nothing else has any; and names that are
the same but for their order and for repetitions end the same way, with the same answer, the same
record and the same errors.

Proof: what is left for the errors is the tally of the turns. The turns at one of the names are
those that there are if it is alone, so `Turn.tally_filter` compares the two tallies. Names that
hold the same have the same turns. -/
theorem checks_apart (plain : PlainRecord) (scenarios : ScenarioMap) (scenario : Value)
    (declared : scenarios.declares scenario = .ok true) (validators : List Validator)
    (checksOnly : ∀ validator ∈ validators, validator.appliesTo scenario = true →
      validator.ChecksOnly plain.host)
    (clears : Bool) (session : Session PlainRecord)
    (clean : clears = true ∨ session.errors = .empty) (names : List Value) :
    (Admits scenario names validators →
      (∀ turn ∈ turns scenario names validators, ∀ fault,
        turn.answer plain.host session.record ≠ .error fault) →
      ∃ valid after,
        (checkNames plain.host scenarios validators scenario clears names).run session =
          .ok valid after) ∧
    ∀ valid after,
      (checkNames plain.host scenarios validators scenario clears names).run session =
          .ok valid after →
        (∀ name ∈ names, ∃ validAlone afterAlone,
          (checkNames plain.host scenarios validators scenario clears [name]).run session =
              .ok validAlone afterAlone ∧
            after.errors.get name = afterAlone.errors.get name) ∧
        (∀ name, names.contains name = false → after.errors.get name = []) ∧
        ∀ others : List Value, (∀ name, name ∈ others ↔ name ∈ names) →
          (checkNames plain.host scenarios validators scenario clears others).run session =
            .ok valid after := by
  have whole := checkNames_of_checksOnly plain declared checksOnly clears clean names
  refine ⟨fun admits answers => whole.2 admits (Turn.tally_completes answers _), ?_⟩
  intro valid after done
  obtain ⟨admits, leaves⟩ := whole.1 valid after done
  have completes : (Turn.tally (Turn.answer plain.host session.record)
      (turns scenario names validators) .empty).2 = .ok () := congrArg Prod.snd leaves
  have left : (Turn.tally (Turn.answer plain.host session.record)
      (turns scenario names validators) .empty).1 = after.errors := congrArg Prod.fst leaves
  refine ⟨?_, ?_, ?_⟩
  · intro name asked
    have listed : names.contains name = true :=
      List.contains_iff_exists_mem_beq.2 ⟨name, asked, BEq.rfl⟩
    obtain ⟨aloneCompletes, same⟩ := Turn.tally_filter name .empty rfl completes
    rw [← turns_singleton validators listed] at aloneCompletes same
    obtain ⟨ofAlone, toAlone⟩ :=
      checkNames_of_checksOnly plain declared checksOnly clears clean [name]
    obtain ⟨validAlone, afterAlone, doneAlone⟩ :=
      toAlone (admits.mono (by simpa using asked)) aloneCompletes
    refine ⟨validAlone, afterAlone, doneAlone, ?_⟩
    rw [(ofAlone _ _ doneAlone).2, left] at same
    rw [ErrorBag.get, same, ErrorBag.get]
  · intro name unasked
    rw [← left]
    refine Turn.tally_get_eq_nil ?_ completes
    intro turn taken
    obtain ⟨-, -, -, asked⟩ := of_mem_turns taken
    rw [Bool.eq_false_iff]
    intro about
    rw [List.contains_congr about, asked] at unasked
    cases unasked
  · intro others same
    have alike : ∀ name : Value, others.contains name = names.contains name := by
      intro name
      rw [Bool.eq_iff_iff, List.contains_iff_exists_mem_beq, List.contains_iff_exists_mem_beq]
      simp only [same]
    rw [checkNames_eq_ok_iff _ declared] at done ⊢
    rw [turns_congr validators alike]
    exact ⟨done.1.mono fun name listed => (same name).1 listed, done.2⟩

/-- Validators of a contact form: the mail is checked only if it is given, and the nickname is
refused twice over. What would be filled in is filled in only in `import`. -/
def contactValidators : List Validator := [
  { Validator.marking [.text "nick", .text "!mail"] [] [] with
    check := .inline (.script (.inline [.note "asked"] (.list [.text "short", .text "taken"])))
      .null .null },
  { Validator.marking [.text "mail", .text "nick"] [] [] with
    skipOnError := .bool false, guard := .script (.guardValue (.text "mail"))
    check := .alwaysFails },
  { Validator.marking [.text "nick"] [.text "import"] [] with
    skipOnError := .bool false, skipOnEmpty := .bool false, check := .default (.text "anon") }]

/-- Names of a contact form, one of which comes twice. -/
def contactNames : List Value := [.text "mail", .text "nick", .text "mail", .text "age"]

/-- The nickname has the messages it has alone, although the mail and an age are checked as well,
and the role, which is not asked for, has none; what is asked for may be named in another order and
once instead of twice. -/
theorem checks_apart_contact :
    let record : PlainRecord := {
      values := ⟨[(.text "nick", .text "x"), (.text "mail", .text "y")]⟩, labels := none }
    let session : Session PlainRecord := { record, errors := .empty, events := [] }
    let scenarios : ScenarioMap := ⟨⟨[(.text "default", [.text "nick", .text "!mail"])]⟩⟩
    let check (names : List Value) := (checkNames record.host scenarios contactValidators
      (.text "default") false names).run session
    ∃ valid after, check contactNames = .ok valid after ∧
      after.errors.get (.text "nick") = [.text "short", .text "taken", .text "nope"] ∧
      (∃ validAlone afterAlone, check [.text "nick"] = .ok validAlone afterAlone ∧
        after.errors.get (.text "nick") = afterAlone.errors.get (.text "nick")) ∧
      after.errors.get (.text "role") = [] ∧
      check [.text "age", .text "nick", .text "mail"] = .ok valid after := by
  intro record session scenarios check
  have checksOnly : ∀ validator ∈ contactValidators,
      validator.appliesTo (.text "default") = true → validator.ChecksOnly record.host := by
    intro validator present active
    have harmless : ∀ validator ∈ contactValidators,
        validator.appliesTo (.text "default") = true →
          validator.transforms = false ∧ validator.readsOnly = true := by decide
    obtain ⟨checks, reads⟩ := harmless validator present active
    exact ⟨checks, record.callsKeep_record reads⟩
  have answers : ∀ turn ∈ turns (.text "default") contactNames contactValidators,
      ∀ fault, turn.answer record.host session.record ≠ .error fault := by
    intro turn taken fault stopped
    have answered : ∀ turn ∈ turns (.text "default") contactNames contactValidators,
        (turn.answer record.host session.record).toBool = true := by decide
    have isAnswer := answered turn taken
    rw [stopped] at isAnswer
    cases isAnswer
  obtain ⟨completes, apart⟩ := checks_apart record scenarios (.text "default") rfl
    contactValidators checksOnly false session (.inr rfl) contactNames
  obtain ⟨valid, after, done⟩ := completes (by decide) answers
  have leaves : ((checkNames record.host scenarios contactValidators (.text "default") false
      contactNames).final session).errors.get (.text "nick") =
        [.text "short", .text "taken", .text "nope"] := rfl
  rw [(Act.run_eq_ok_iff.1 done).2] at leaves
  obtain ⟨alone, others, alike⟩ := apart valid after done
  refine ⟨valid, after, done, leaves, alone (.text "nick") (by simp [contactNames]),
    others (.text "role") (by decide), alike _ fun name => ?_⟩
  simp only [contactNames, List.mem_cons, List.not_mem_nil, or_false]
  grind

end Pass

end RecordValidation
