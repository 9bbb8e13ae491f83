import RecordValidation.Session

/-!
# Running work on a session

What each piece of work on a session does when it is run, so that longer work can be read off piece
by piece. Going through a list is stated once, in the form in which it is written in a row.
-/

namespace RecordValidation

namespace Act

variable {ρ α : Type}

/-- A result that is there is the result of work that does nothing. -/
@[simp] theorem ofOutcome_ok (value : α) : (ofOutcome (.ok value) : Act ρ α) = pure value := rfl

/-- Two steps that do not touch the session are the two results, one after the other. -/
theorem ofOutcome_bind {β : Type} (first : Outcome α) (next : α → Outcome β) :
    (ofOutcome (first >>= next) : Act ρ β) = ofOutcome first >>= fun value =>
      ofOutcome (next value) := by
  cases first <;> rfl

/-- Asking for the record gives it and leaves the session as it is. -/
@[simp] theorem run_record (session : Session ρ) :
    (record : Act ρ ρ).run session = .ok session.record session := rfl

/-- Putting a record in place of the other one touches nothing else of the session. -/
@[simp] theorem run_setRecord (changed : ρ) (session : Session ρ) :
    (setRecord changed).run session = .ok () { session with record := changed } := rfl

/-- An event is put behind those that there are, and nothing else changes. -/
@[simp] theorem run_observe (event : Event) (session : Session ρ) :
    (observe event : Act ρ Unit).run session =
      .ok () { session with events := session.events ++ [event] } := rfl

/-- What is done after work that stops is not done. -/
theorem run_bind_of_error {β : Type} {first : Act ρ α} {next : α → Act ρ β} {fault : Fault}
    {session after : Session ρ} (stopped : first.run session = .error fault after) :
    (first >>= next).run session = .error fault after := by
  rw [EStateM.run_bind, stopped]

/-- Going through some items is doing the work for one after the other. The loop could be left
early, and this one never is. -/
theorem forIn_eq_forM (items : List α) (work : α → Act ρ Unit) :
    (do for item in items do work item) = forM items work := by
  rw [bind_pure_unit]
  induction items with
  | nil => rfl
  | cons item rest inductionHypothesis =>
    rw [List.forIn_cons, List.forM_cons, ← inductionHypothesis]
    simp only [bind_assoc, pure_bind]

/-- Work that does nothing for the items that fail a test can be done for those that pass it. The
items that are left out are idle wherever they stand, so the others are worked on in the same
order. -/
theorem forM_filter (test : α → Bool) (items : List α) (work : α → Act ρ Unit)
    (idle : ∀ item ∈ items, test item = false → work item = pure ()) :
    forM (items.filter test) work = forM items work := by
  induction items with
  | nil => rfl
  | cons item rest inductionHypothesis =>
    have others : forM (rest.filter test) work = forM rest work :=
      inductionHypothesis fun other later => idle other (List.mem_cons_of_mem _ later)
    by_cases passes : test item = true
    · rw [List.filter_cons_of_pos passes, List.forM_cons, List.forM_cons, others]
    · have nothing : work item = pure () := idle item (by simp) (by simpa using passes)
      rw [List.filter_cons_of_neg passes, List.forM_cons, nothing, pure_bind, others]

/-- Work that is the same for each item is the same for all of them. The work has to agree on the
items that are there and on no others. -/
theorem forM_congr {items : List α} {work other : α → Act ρ Unit}
    (same : ∀ item ∈ items, work item = other item) : forM items work = forM items other := by
  induction items with
  | nil => rfl
  | cons item rest inductionHypothesis =>
    rw [List.forM_cons, List.forM_cons, same item (by simp),
      inductionHypothesis fun later present => same later (List.mem_cons_of_mem _ present)]

end Act

/-- Writing an attribute stops if the record refuses it, and otherwise changes nothing but the
record. The record is asked first, so a refusal leaves the session as it was. -/
theorem Host.run_set {ρ : Type} (host : Host ρ) (name value : Value) (session : Session ρ) :
    (host.set name value).run session =
      match host.write session.record name value with
      | .ok changed => .ok () { session with record := changed }
      | .error fault => .error fault session := by
  change EStateM.run (do
    Act.setRecord (← Act.ofOutcome (host.write session.record name value))) session = _
  cases host.write session.record name value <;> rfl

end RecordValidation
