import Mathlib.Data.List.DropRight
import RecordValidation.Proofs.Distinct
import RecordValidation.Proofs.Effects
import RecordValidation.Proofs.OrderedMaps

/-!
# Error bags and the log of what was done to them

A bag is worked on by adding a message, by adding the messages of a map and by clearing. What these
do to it is told by a log of single entries: a message was added for an attribute, or an attribute
or the whole bag was cleared. From the log alone follows what an attribute has, namely the messages
added for it since the last entry that cleared it (`messagesSince`), and which additions survive
(`surviving`).

`Reflects` says that a bag holds what a log tells. One change of a bag keeps it (`Reflects.step`),
so after any changes, in any order, a bag reflects the log of them (`reflects_applyAll`). Everything
that can be asked of the bag is then read off the log: `changes_exact`. The errors of a session are
changed in the same way (`Change.run_addError`, `Change.run_clearErrors`).

Names are the same up to sameness of values. An attribute that cannot be a name, and a value that
cannot be gone through, stop a change; the log has what was done until then.
-/

namespace RecordValidation

namespace ErrorBag

open Resolution

/-- Something done to the messages of a bag. -/
inductive LogEntry
  /-- A message was added for an attribute. -/
  | added (name message : Value)
  /-- An attribute was cleared, or all of them if none is named. -/
  | cleared (name : Option Value)

namespace LogEntry

/-- Whether an entry drops the messages of an attribute. -/
def clears (name : Value) : LogEntry → Bool
  | added _ _ => false
  | cleared none => true
  | cleared (some other) => name == other

/-- The message that an entry adds for an attribute, if it adds one. -/
def messageFor? (name : Value) : LogEntry → Option Value
  | added other message => if name == other then some message else none
  | cleared _ => none

end LogEntry

/-- The messages added for an attribute since it was last cleared, in order. -/
def messagesSince (name : Value) (log : List LogEntry) : List Value :=
  (log.rtakeWhile fun entry => !entry.clears name).filterMap (·.messageFor? name)

/-- The attributes of the additions that no later entry clears, in order and with repetitions. -/
def surviving : List LogEntry → List Value
  | [] => []
  | .added name _ :: later =>
    if later.any (·.clears name) then surviving later else name :: surviving later
  | .cleared _ :: later => surviving later

/-- No messages were added in an empty log. -/
@[simp] theorem messagesSince_nil (name : Value) : messagesSince name [] = [] := rfl

/-- An added message is the last one of its attribute and of no other. -/
theorem messagesSince_added (log : List LogEntry) (name added message : Value) :
    messagesSince name (log ++ [.added added message]) =
      if name == added then messagesSince name log ++ [message] else messagesSince name log := by
  have kept : (!(LogEntry.added added message).clears name) = true := rfl
  rw [messagesSince, List.rtakeWhile_concat, if_pos kept, List.filterMap_append]
  by_cases here : name == added <;> simp [LogEntry.messageFor?, here, messagesSince]

/-- What is cleared has no messages, and the rest keeps its own. -/
theorem messagesSince_cleared (log : List LogEntry) (name : Value) (cleared : Option Value) :
    messagesSince name (log ++ [.cleared cleared]) =
      if (LogEntry.cleared cleared).clears name then [] else messagesSince name log := by
  rw [messagesSince, List.rtakeWhile_concat]
  by_cases covered : (LogEntry.cleared cleared).clears name
  · simp [covered]
  · simp [covered, LogEntry.messageFor?, messagesSince]

/-- An addition survives at first. -/
theorem surviving_added (log : List LogEntry) (added message : Value) :
    surviving (log ++ [.added added message]) = surviving log ++ [added] := by
  induction log with
  | nil => rfl
  | cons entry rest inductionHypothesis =>
    cases entry with
    | added name first =>
      have clearedBefore : (rest ++ [LogEntry.added added message]).any (·.clears name) =
          rest.any (·.clears name) := by simp [LogEntry.clears]
      simp only [List.cons_append, surviving, clearedBefore, inductionHypothesis]
      split <;> rfl
    | cleared name => exact inductionHypothesis

/-- Of what survives, clearing leaves what it does not cover. The induction is on the log; what a
later entry has cleared already is not asked about again. -/
theorem surviving_cleared (log : List LogEntry) (cleared : Option Value) :
    surviving (log ++ [.cleared cleared]) =
      (surviving log).filter fun name => !(LogEntry.cleared cleared).clears name := by
  induction log with
  | nil => rfl
  | cons entry rest inductionHypothesis =>
    cases entry with
    | added name message =>
      simp only [List.cons_append, surviving, List.any_append, List.any_cons, List.any_nil,
        Bool.or_false, inductionHypothesis]
      by_cases before : rest.any (·.clears name)
      · simp only [before, Bool.true_or, ↓reduceIte]
      · by_cases now : (LogEntry.cleared cleared).clears name <;> simp [before, now]
    | cleared name => exact inductionHypothesis

/-- An entry clears an attribute exactly if it clears those that are the same. This is why the log
may speak of names up to sameness. -/
theorem LogEntry.clears_congr (entry : LogEntry) (a b : Value) (same : (a == b) = true) :
    entry.clears a = entry.clears b := by
  cases entry with
  | added name message => rfl
  | cleared name =>
    cases name with
    | none => rfl
    | some name => exact BEq.congr_left same

/-- An attribute has an addition that survives exactly if it has messages since it was last cleared.

Proof: by induction on the log from its end, by the laws of a last entry. -/
theorem contains_surviving (log : List LogEntry) (name : Value) :
    (surviving log).contains name = true ↔ messagesSince name log ≠ [] := by
  induction log using List.reverseRecOn with
  | nil => simp [surviving]
  | append_singleton log entry inductionHypothesis =>
    cases entry with
    | added other message =>
      rw [surviving_added, messagesSince_added]
      by_cases here : name == other
      · simp [List.contains_append, here]
      · simpa [List.contains_append, here] using inductionHypothesis
    | cleared cleared =>
      have respects : ∀ a b : Value, (a == b) = true →
          (!(LogEntry.cleared cleared).clears a) = !(LogEntry.cleared cleared).clears b :=
        fun a b same => congrArg _ (LogEntry.clears_congr _ a b same)
      rw [surviving_cleared, messagesSince_cleared, Value.contains_filter _ respects]
      by_cases covered : (LogEntry.cleared cleared).clears name
      · simp [covered]
      · simpa [covered] using inductionHypothesis

/-- A bag holds what a log tells: every attribute has the messages added for it since it was last
cleared, and the attributes stand in the order of their first additions that survive. -/
structure Reflects (bag : ErrorBag) (log : List LogEntry) : Prop where
  keys : bag.messages.keys = Value.distinct (surviving log)
  messages : ∀ name, bag.get name = messagesSince name log

/-- The empty bag reflects the empty log. -/
theorem reflects_empty : Reflects .empty [] := ⟨rfl, fun _ => rfl⟩

namespace Reflects

variable {bag : ErrorBag} {log : List LogEntry}

/-- An attribute is in the bag exactly if it has an addition that survives. -/
theorem has (reflects : Reflects bag log) (name : Value) :
    bag.has name = (surviving log).contains name := by
  rw [ErrorBag.has, ← OrderedMap.contains_keys, reflects.keys, Value.contains_distinct]

/-- An attribute is in the bag exactly if it has messages. -/
theorem has_iff (reflects : Reflects bag log) (name : Value) :
    bag.has name = true ↔ bag.get name ≠ [] := by
  rw [reflects.has, contains_surviving, reflects.messages]

/-- Adding a message is told by an entry that adds it. The attribute is a new key exactly if no
addition for it survives, which is when `distinct` has a new place for it. -/
theorem add (reflects : Reflects bag log) (name message : Value) :
    Reflects (bag.add name message) (log ++ [.added name message]) where
  keys := by
    rw [surviving_added, Value.distinct_concat, insertNew, Value.contains_distinct,
      ← reflects.has, ← reflects.keys, ErrorBag.add]
    cases present : bag.has name with
    | true => exact bag.messages.keys_alter _ _ present
    | false => exact bag.messages.keys_alter_new _ _ present
  messages other := by
    rw [get_add, messagesSince_added, ← reflects.messages]
    by_cases here : other == name
    · have same : bag.get name = bag.get other := by
        rw [get, get, OrderedMap.get?_congr _ here]
      simp only [here, ↓reduceIte, same]
    · simp only [here, Bool.false_eq_true, ↓reduceIte]

/-- Adding messages for an attribute is told by an entry for each. -/
theorem addEach (reflects : Reflects bag log) (name : Value) (messages : List Value) :
    Reflects (bag.addEach name messages) (log ++ messages.map (.added name)) := by
  unfold ErrorBag.addEach
  induction messages generalizing bag log with
  | nil => simpa using reflects
  | cons message rest inductionHypothesis =>
    simpa using inductionHypothesis (reflects.add name message)

/-- Clearing an attribute is told by an entry that clears it. Taking a key out and taking
repetitions out can be done in either order, since clearing covers all names that are the same. -/
theorem clear (reflects : Reflects bag log) (name : Value) :
    Reflects (bag.clear name) (log ++ [.cleared (some name)]) where
  keys := by
    have respects : ∀ a b : Value, (a == b) = true → (!(a == name)) = !(b == name) :=
      fun a b same => congrArg _ (BEq.congr_left same)
    have sides : (fun key : Value => !(name == key)) = fun key => !(key == name) :=
      funext fun key => congrArg _ BEq.comm
    rw [surviving_cleared, ErrorBag.clear, OrderedMap.keys_erase, reflects.keys, sides]
    exact (Value.distinct_filter _ respects _).symm
  messages other := by
    rw [get_clear, messagesSince_cleared, ← reflects.messages]
    rfl

/-- The empty bag is told by a last entry that clears all attributes. -/
theorem clearAll (log : List LogEntry) : Reflects .empty (log ++ [.cleared none]) where
  keys := by
    rw [surviving_cleared]
    simp [LogEntry.clears, Value.distinct, empty, OrderedMap.keys, OrderedMap.empty]
  messages name := by
    rw [messagesSince_cleared]
    rfl

/-- The entries of a bag are its attributes, each with its messages. Its keys differ from one
another, so looking up the key of an entry finds that entry. -/
theorem all (reflects : Reflects bag log) :
    bag.all = bag.messages.keys.map fun name => (name, bag.get name) := by
  have unlike : bag.messages.entries.Pairwise fun a b => (a.1 == b.1) = false := by
    have distinct := Value.pairwise_distinct (surviving log)
    rw [← reflects.keys] at distinct
    exact List.pairwise_map.1 distinct
  rw [ErrorBag.all, OrderedMap.keys, List.map_map]
  refine ((List.map_congr_left fun entry present => ?_).trans (List.map_id _)).symm
  have own : bag.messages.get? entry.1 = some entry.2 := OrderedMap.lookup_of_mem present unlike
  rw [Function.comp, get, own]
  rfl

/-- The first messages of a bag are those of its attributes. An attribute in the bag has a message,
so none of them is left out for want of one. -/
theorem firstOfEach (reflects : Reflects bag log) :
    bag.firstOfEach.map (fun entry => (entry.1, some entry.2)) =
      bag.messages.keys.map fun name => (name, bag.firstOf? name) := by
  have present : ∀ name ∈ bag.messages.keys, bag.firstOf? name ≠ none := by
    intro name among
    have there : bag.has name = true := by
      rw [ErrorBag.has, ← OrderedMap.contains_keys]
      exact List.contains_iff_exists_mem_beq.2 ⟨name, among, BEq.rfl⟩
    simpa [firstOf?] using (reflects.has_iff name).1 there
  rw [ErrorBag.firstOfEach, reflects.all, List.filterMap_map]
  generalize bag.messages.keys = names at present
  induction names with
  | nil => rfl
  | cons name rest inductionHypothesis =>
    have others := inductionHypothesis fun other later =>
      present other (List.mem_cons_of_mem _ later)
    obtain ⟨message, first⟩ := Option.ne_none_iff_exists'.1 (present name List.mem_cons_self)
    have head : (bag.get name).head? = some message := first
    simp [Function.comp, head, first, ← others]

/-- There are attributes in the bag exactly if one of them has messages. An attribute of a bag that
reflects a log has at least the message it was entered with. -/
theorem isEmpty_iff (reflects : Reflects bag log) :
    bag.isEmpty = false ↔ ∃ name, bag.get name ≠ [] := by
  constructor
  · intro filled
    obtain ⟨⟨entries⟩⟩ := bag
    cases entries with
    | nil => simp [isEmpty, OrderedMap.isEmpty] at filled
    | cons entry rest =>
      refine ⟨entry.1, (reflects.has_iff entry.1).1 ?_⟩
      simp [ErrorBag.has, OrderedMap.contains, OrderedMap.get?]
  · rintro ⟨name, present⟩
    obtain ⟨⟨entries⟩⟩ := bag
    cases entries with
    | nil => exact absurd rfl present
    | cons entry rest => rfl

end Reflects

/-- A bag is not empty exactly if its size is not zero. -/
theorem isEmpty_iff_size (bag : ErrorBag) : bag.isEmpty = false ↔ 0 < bag.size := by
  obtain ⟨⟨entries⟩⟩ := bag
  cases entries <;> simp [isEmpty, size, OrderedMap.isEmpty, OrderedMap.size]

/-- A change of a bag. -/
inductive Change
  | add (name message : Value)
  /-- Add the messages of a map: a text is one message, anything else its items. -/
  | addAll (items : Value)
  /-- Clear an attribute, or all if none is named. -/
  | clear (name : Value)

/-- The log of adding the messages of some entries, up to one that cannot be gone through. -/
def entriesTold : List (Value × Value) → List LogEntry
  | [] => []
  | (name, value) :: rest =>
    match givenMessages value with
    | .ok messages => messages.map (.added name) ++ entriesTold rest
    | .error _ => []

namespace Change

/-- What a change leaves of a bag, and whether it went through. -/
def act (bag : ErrorBag) : Change → ErrorBag × Outcome Unit
  | add name message =>
    match name.asName with
    | .ok name => (bag.add name message, .ok ())
    | .error fault => (bag, .error fault)
  | addAll items => bag.addAll items
  | clear name =>
    if name.isNull then (.empty, .ok ())
    else
      match name.asName with
      | .ok name => (bag.clear name, .ok ())
      | .error fault => (bag, .error fault)

/-- What a change does, as a log. -/
def told : Change → List LogEntry
  | add name message => if name.IsName then [.added name message] else []
  | addAll (.map entries) => entriesTold entries
  | addAll _ => []
  | clear name =>
    if name.isNull then [.cleared none]
    else if name.IsName then [.cleared (some name)] else []

/-- A change that nothing stops: its attribute can be a name, and what it is to add are texts and
values that can be gone through. -/
def Fits : Change → Prop
  | add name _ => name.IsName
  | addAll items => ∃ entries, items = .map entries ∧
      ∀ entry ∈ entries, ∃ messages, givenMessages entry.2 = .ok messages
  | clear name => name.IsName

/-- A change that fits goes through. Of a map it is asked for each entry, and the induction is on
these. -/
theorem act_of_fits {change : Change} (fits : change.Fits) (bag : ErrorBag) :
    (change.act bag).2 = .ok () := by
  cases change with
  | add name message => simp only [act, Value.asName_of_isName fits]
  | addAll items =>
    obtain ⟨entries, rfl, given⟩ := fits
    simp only [act, ErrorBag.addAll]
    induction entries generalizing bag with
    | nil => rfl
    | cons entry rest inductionHypothesis =>
      obtain ⟨messages, first⟩ := given entry List.mem_cons_self
      rw [addEntries, first]
      exact inductionHypothesis _ fun other later => given other (List.mem_cons_of_mem _ later)
  | clear name =>
    simp only [act, Value.asName_of_isName fits]
    split <;> rfl

section

variable {ρ : Type} (session : Session ρ)

/-- Adding an error to a session adds it to its bag and does nothing else. -/
theorem run_addError (name message : Value) :
    let changed := (add name message).act session.errors
    (Act.addError name message).outcome session = changed.2 ∧
      (Act.addError name message).final session = { session with errors := changed.1 } := by
  simp only [act]
  unfold Act.outcome Act.final Act.addError
  cases name.asName <;> exact ⟨rfl, rfl⟩

/-- Clearing errors of a session clears them in its bag and does nothing else. If no name is given
there is none to look at, and the change cannot stop. -/
theorem run_clearErrors (name : Value) :
    let changed := (clear name).act session.errors
    (Act.clearErrors name).outcome session = changed.2 ∧
      (Act.clearErrors name).final session = { session with errors := changed.1 } := by
  simp only [act]
  unfold Act.outcome Act.final Act.clearErrors
  cases name.isNull with
  | true => exact ⟨rfl, rfl⟩
  | false => cases name.asName <;> exact ⟨rfl, rfl⟩

end

end Change

/-- Adding the messages of entries is told by their log. A value that cannot be gone through ends
the log as it ends the adding. -/
theorem Reflects.addEntries {bag : ErrorBag} {log : List LogEntry} (reflects : Reflects bag log)
    (entries : List (Value × Value)) :
    Reflects (bag.addEntries entries).1 (log ++ entriesTold entries) := by
  induction entries generalizing bag log with
  | nil => simpa [ErrorBag.addEntries, entriesTold] using reflects
  | cons entry rest inductionHypothesis =>
    obtain ⟨name, value⟩ := entry
    rw [ErrorBag.addEntries, entriesTold]
    cases given : givenMessages value with
    | ok messages =>
      simpa [List.append_assoc] using inductionHypothesis (reflects.addEach name messages)
    | error fault => simpa using reflects

/-- A bag that reflects a log reflects, once a change is made, the log with what the change does at
its end. There is one case for each kind of change, and a change that is stopped at once adds
nothing to the log. -/
theorem Reflects.step {bag : ErrorBag} {log : List LogEntry} (reflects : Reflects bag log)
    (change : Change) : Reflects (change.act bag).1 (log ++ change.told) := by
  cases change with
  | add name message =>
    by_cases named : name.IsName
    · simpa [Change.act, Change.told, Value.asName_of_isName named, named] using
        reflects.add name message
    · obtain ⟨fault, refused⟩ := Value.asName_of_not_isName named
      simpa [Change.act, Change.told, refused, named] using reflects
  | addAll items =>
    cases items with
    | map entries => exact reflects.addEntries entries
    | _ => simpa [Change.act, Change.told, ErrorBag.addAll] using reflects
  | clear name =>
    by_cases all : name.isNull = true
    · simpa [Change.act, Change.told, all] using Reflects.clearAll log
    · by_cases named : name.IsName
      · simpa [Change.act, Change.told, all, Value.asName_of_isName named, named] using
          reflects.clear name
      · obtain ⟨fault, refused⟩ := Value.asName_of_not_isName named
        simpa [Change.act, Change.told, all, refused, named] using reflects

/-- What changes, one after the other, leave of a bag. A change that is stopped leaves what it did
until then, and the next one goes on from there. -/
def applyAll (changes : List Change) (bag : ErrorBag) : ErrorBag :=
  changes.foldl (fun bag change => (change.act bag).1) bag

/-- A bag that reflects a log reflects, after changes, the log with all that they do at its end, one
after the other. -/
theorem reflects_applyAll {bag : ErrorBag} {log : List LogEntry} (reflects : Reflects bag log)
    (changes : List Change) :
    Reflects (applyAll changes bag) (log ++ changes.flatMap Change.told) := by
  induction changes generalizing bag log with
  | nil => simpa [applyAll] using reflects
  | cons change rest inductionHypothesis =>
    rw [List.flatMap_cons, ← List.append_assoc]
    exact inductionHypothesis (reflects.step change)

/-- After any changes of an empty bag everything that can be asked of it follows from the log of
them. An attribute has the messages added for it since it was last cleared, alone or with all
others. The attributes are those that have messages, in the order of their first additions that
survive, so one that was cleared and comes back is at the end. An attribute is in the bag exactly
if it has messages, and there are attributes, which is the same as their number not being zero,
exactly if one of them has messages. Together with its attributes the bag gives the messages of
each, and the first message of each.

No change stops if its attribute can be a name and what it adds are texts and values that can be
gone through.

Proof: the empty bag reflects the empty log, so after the changes the bag reflects their log. What
the attributes and their messages are is what this says; the rest compares questions with each
other. -/
theorem changes_exact (changes : List Change) :
    let bag := applyAll changes .empty
    let log := changes.flatMap Change.told
    (∀ change ∈ changes, change.Fits → ∀ before, (change.act before).2 = .ok ()) ∧
    (∀ name, bag.get name = messagesSince name log) ∧
    bag.messages.keys = Value.distinct (surviving log) ∧
    (∀ name, bag.messages.keys.contains name = true ↔ bag.get name ≠ []) ∧
    (∀ name, bag.has name = true ↔ bag.get name ≠ []) ∧
    (bag.isEmpty = false ↔ ∃ name, bag.get name ≠ []) ∧
    (bag.isEmpty = false ↔ 0 < bag.size) ∧
    bag.all = bag.messages.keys.map (fun name => (name, bag.get name)) ∧
    (∀ name, bag.firstOf? name = (bag.get name).head?) ∧
    bag.firstOfEach.map (fun entry => (entry.1, some entry.2)) =
      bag.messages.keys.map fun name => (name, bag.firstOf? name) := by
  intro bag log
  have reflects : Reflects bag log := by
    simpa using reflects_applyAll reflects_empty changes
  refine ⟨fun change _ fits before => change.act_of_fits fits before, reflects.messages,
    reflects.keys, ?_, reflects.has_iff, ?_, ?_, reflects.all, fun _ => rfl, ?_⟩
  · intro name
    rw [OrderedMap.contains_keys]
    exact reflects.has_iff name
  · exact reflects.isEmpty_iff
  · exact isEmpty_iff_size bag
  · exact reflects.firstOfEach

/-- An attribute that was cleared and comes back is the last one, and an empty list of messages
brings in no attribute. -/
example :
    (applyAll [.add "name" "too short", .add "age" "missing", .clear "name",
      .addAll (.map [("email", .list []), ("name", "taken")])] .empty).all =
      [(.text "age", [.text "missing"]), (.text "name", [.text "taken"])] := rfl

end ErrorBag

end RecordValidation
