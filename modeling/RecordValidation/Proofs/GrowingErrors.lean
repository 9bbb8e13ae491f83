import RecordValidation.Proofs.FirstComplaint

/-!
# Errors that are not cleared only grow

A pass may be told to leave the errors there are. `Pass.errors_only_grow` says what they become
then, however the pass ends: the attributes that had errors come first, each with its messages
before those that the turns of the pass add, and an attribute that had errors gets more only from
validators that do not leave out attributes that have errors.

`ErrorBag.Grown` is that relation between two bags and the visits that lie between them. One turn
stands in it (`Turn.grown_take`), and turns in a row do because it goes on from bag to bag
(`ErrorBag.Grown.trans`).
-/

namespace RecordValidation

/-- What is said about an attribute in some visits. -/
def messagesAt (name : Value) (visits : List Visit) : List Value :=
  visits.flatMap fun visit =>
    if name == .text visit.turn.name then visit.course.messages else []

namespace ErrorBag

variable {before between after : ErrorBag} {earlier later : List Visit}

/-! ## One bag grown from another -/

/-- A bag to which messages were added has the attributes that it had, and perhaps the one they are
about behind them. The induction is on the messages: the first may add the attribute, and the others
find it there. -/
theorem keys_prefix_addEach (bag : ErrorBag) (name : Value) (messages : List Value) :
    bag.messages.keys <+: (bag.addEach name messages).messages.keys := by
  unfold addEach
  induction messages generalizing bag with
  | nil => exact List.prefix_rfl
  | cons message rest inductionHypothesis =>
    refine List.IsPrefix.trans ?_ (inductionHypothesis (bag.add name message))
    cases present : bag.messages.contains name with
    | true => exact (bag.messages.keys_alter _ _ present).symm ▸ List.prefix_rfl
    | false =>
      rw [add, bag.messages.keys_alter_new _ _ present]
      exact List.prefix_append _ _

/-- A bag is empty exactly if no attribute is there. -/
theorem isEmpty_iff_keys (bag : ErrorBag) : bag.isEmpty = true ↔ bag.messages.keys = [] := by
  rw [isEmpty, OrderedMap.isEmpty, OrderedMap.keys, List.map_eq_nil_iff, List.isEmpty_iff]

/-- Messages that are added for an attribute come behind those that it has, and no other attribute
gets any. As the attribute added to is a text, being the same as it is being it. -/
theorem get_addEach (bag : ErrorBag) (own : String) (messages : List Value) (name : Value) :
    (bag.addEach (.text own) messages).get name =
      bag.get name ++ if name == .text own then messages else [] := by
  cases about : name == .text own with
  | true =>
    obtain rfl := (Value.text_beq_iff own name).1 (BEq.symm about)
    exact bag.get_addEach_self _ messages
  | false =>
    rw [get, get?_addEach_of_unlike _ _ about]
    exact (List.append_nil _).symm

/-- One bag is another after some visits. The attributes it had come first and in their order, each
has what was said about it in the visits behind what it had, and about an attribute that it had
nothing was said by a validator that leaves out attributes that have errors. -/
structure Grown (before after : ErrorBag) (visits : List Visit) : Prop where
  keys : before.messages.keys <+: after.messages.keys
  messages : ∀ name, after.get name = before.get name ++ messagesAt name visits
  insistent : ∀ name, before.has name = true → ∀ visit ∈ visits, name = .text visit.turn.name →
    visit.course.messages ≠ [] → visit.turn.validator.skipOnError.truthy = false

namespace Grown

/-- Without visits a bag stays as it is. -/
theorem refl (bag : ErrorBag) : Grown bag bag [] where
  keys := List.prefix_rfl
  messages name := (List.append_nil _).symm
  insistent name failing visit visited := by cases visited

/-- An attribute that a bag had is there still. -/
theorem has (grown : Grown before after earlier) {name : Value} (failing : before.has name = true) :
    after.has name = true := by
  rw [ErrorBag.has, ← OrderedMap.contains_keys] at failing ⊢
  obtain ⟨key, among, same⟩ := List.contains_iff_exists_mem_beq.1 failing
  exact List.contains_iff_exists_mem_beq.2 ⟨key, grown.keys.subset among, same⟩

/-- A bag that is empty was empty before. -/
theorem isEmpty (grown : Grown before after earlier) (without : after.isEmpty = true) :
    before.isEmpty = true := by
  rw [isEmpty_iff_keys] at without ⊢
  exact List.prefix_nil.1 (without ▸ grown.keys)

/-- What goes on growing has grown in all. An attribute that the first bag had is one that the
second has, so what is said of the later visits holds of it as well. -/
theorem trans (first : Grown before between earlier) (second : Grown between after later) :
    Grown before after (earlier ++ later) where
  keys := first.keys.trans second.keys
  messages name := by
    rw [second.messages, first.messages, List.append_assoc, messagesAt, messagesAt, messagesAt,
      List.flatMap_append]
  insistent name failing visit visited := by
    obtain visited | visited := List.mem_append.1 visited
    · exact first.insistent name failing visit visited
    · exact second.insistent name (first.has failing) visit visited

end Grown

end ErrorBag

open ErrorBag (Grown)

/-! ## Turns -/

namespace Turn

variable {ρ : Type} (host : Host ρ)

/-- A bag is grown by one turn. If the attribute had errors and its validator leaves those out, the
turn fails before it asks, and has no messages. -/
theorem grown_take {turn : Turn} (calls : turn.validator.CallsKeep host Session.errors)
    (session : Session ρ) :
    Grown session.errors ((turn.take host).final session).errors
      [⟨turn, turn.course host session⟩] := by
  rw [errors_take calls]
  constructor
  case keys => exact session.errors.keys_prefix_addEach _ _
  case messages =>
    intro name
    rw [session.errors.get_addEach, messagesAt, List.flatMap_singleton]
  case insistent =>
    intro name failing visit visited about complains
    obtain rfl := List.mem_singleton.1 visited
    obtain rfl := about
    rw [Bool.eq_false_iff]
    intro skips
    have out : turn.leavesOut session.errors = true := by
      rw [leavesOut, skips, failing]
      rfl
    rw [course_eq_failing_iff.2 out] at complains
    exact complains rfl

/-- Turns in a row, up to one that stops.

Proof: by induction on the turns; what the first leaves goes on growing. -/
theorem grown_takeAll {turns : List Turn}
    (calls : ∀ turn ∈ turns, turn.validator.CallsKeep host Session.errors) (session : Session ρ) :
    Grown session.errors ((takeAll host turns).final session).errors
      (visits host turns session) := by
  induction turns generalizing session with
  | nil => exact Grown.refl _
  | cons turn rest inductionHypothesis =>
    rw [List.forall_mem_cons] at calls
    have first := grown_take host calls.1 session
    rw [visits, final_takeAll_cons]
    cases (turn.take host).outcome session with
    | ok course => exact first.trans (inductionHypothesis calls.2 _)
    | error fault => exact first

end Turn

/-! ## The whole pass -/

namespace Pass

variable {ρ : Type} {host : Host ρ} {pass : Pass ρ} {session : Session ρ}

/-- A pass that finds the record valid leaves no errors. The answer is given last, from the errors
that are left, and a pass that is called off does not find the record valid. -/
theorem isEmpty_of_valid (valid : (pass.run host).outcome session = .ok true) :
    ((pass.run host).final session).errors.isEmpty = true := by
  have concludes : ∀ reached : Session ρ, (pass.conclude host).outcome reached = .ok true →
      ((pass.conclude host).final reached).errors.isEmpty = true := by
    intro reached concluded
    obtain ⟨⟨⟩, observed, answered⟩ := Act.outcome_bind_eq_ok_iff.1 concluded
    rw [conclude, Act.final_bind, observed]
    exact Except.ok.inj answered
  have runs := run_eq_stages host pass session
  rw [Act.outcome_congr runs] at valid
  rw [Act.final_congr runs]
  obtain ⟨settled, entered, finished⟩ := Act.outcome_bind_eq_ok_iff.1 valid
  rw [Act.final_bind, entered]
  cases settled with
  | none => cases finished
  | some turns =>
    obtain ⟨⟨⟩, taken, concluded⟩ := Act.outcome_bind_eq_ok_iff.1 finished
    simp only [finish, Act.final_bind, taken]
    exact concludes _ concluded

/-- Errors that a pass does not clear only grow.

Let a pass leave the errors there are, and let nothing that it calls touch them. However it ends,
the attributes that had errors come first in their order, with the messages that they had before
those of the visits at them; at an attribute that had errors, only validators that do not leave it
out for that say anything. A record that had errors is not found valid. -/
theorem errors_only_grow (host : Host ρ) (pass : Pass ρ) (session : Session ρ)
    (unclearing : pass.clears = false) (leaves : pass.LeavesErrors host session) :
    let visits := pass.visits host session
    let after := (pass.run host).final session
    visits.map Visit.turn <+: pass.turnsFrom host session ∧
    session.errors.messages.keys <+: after.errors.messages.keys ∧
    (∀ name, after.errors.get name = session.errors.get name ++ messagesAt name visits) ∧
    (∀ name, session.errors.has name = true → ∀ visit ∈ visits, name = .text visit.turn.name →
      visit.course.messages ≠ [] → visit.turn.validator.skipOnError.truthy = false) ∧
    ((pass.run host).outcome session = .ok true → session.errors.isEmpty = true) := by
  intro visits after
  have entered : ((pass.enter host).final (start pass.clears session)).errors = session.errors := by
    rw [keepsErrors_enter leaves, start, unclearing, if_neg Bool.false_ne_true]
  have grown : Grown session.errors after.errors visits := by
    rw [← entered, errors_run leaves]
    exact Turn.grown_takeAll host leaves.complaints _
  exact ⟨Turn.visits_prefix host _ _, grown.keys, grown.messages, grown.insistent,
    fun valid => grown.isEmpty (isEmpty_of_valid valid)⟩

/-- Two checks that fail at the age, of which only the second goes on if there are errors; it fails
at the name as well. -/
def ageValidators : List Validator := [
  { Validator.marking ["age"] [] [] with check := .alwaysFails },
  { Validator.marking ["age", "name"] [] [] with
    skipOnError := .bool false, check := .alwaysFails }]

/-- An age that had an error gets another from the check that goes on, and the name gets its first
behind it. -/
theorem errors_only_grow_age :
    let record : PlainRecord := { values := ⟨[("age", "?"), ("name", "x")]⟩, labels := none }
    let session : Session PlainRecord := {
      record, errors := ⟨⟨[("age", ["unlikely"])]⟩⟩, events := [] }
    let pass : Pass PlainRecord := {
      scenario := "default", names := .null, clears := false
      before := [⟨[.note "opened"], .null⟩], after := [⟨[.note "closed"], .null⟩]
      scenarioMap := Act.ofOutcome (resolve "default" ageValidators)
      validators := return ageValidators }
    let after := (pass.run record.host).final session
    session.errors.messages.keys <+: after.errors.messages.keys ∧
      after.errors.get "age" =
        [Value.text "unlikely"] ++ messagesAt "age" (pass.visits record.host session) ∧
      (pass.run record.host).outcome session ≠ .ok true ∧
      after.errors = ⟨⟨[("age", ["unlikely", "nope"]), ("name", ["nope"])]⟩⟩ := by
  intro record session pass after
  have leaves : pass.LeavesErrors record.host session :=
    leavesErrors_of_plain record (Act.keeps_ofOutcome (resolve "default" ageValidators))
      fun _ => rfl
  obtain ⟨-, keys, messages, -, invalid⟩ :=
    errors_only_grow record.host pass session rfl leaves
  refine ⟨keys, messages "age", fun valid => ?_, rfl⟩
  cases invalid valid

end Pass

end RecordValidation
