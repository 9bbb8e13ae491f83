import RecordValidation.Proofs.ModelState
import RecordValidation.Proofs.RecordFrame

/-!
# The calls of a check

A validator that runs goes through the attributes it covers, and at each of them it may leave the
attribute out before it calls its check. `ValidatorOf.checkCalls` is the list of the attributes at
which the check is called, as the run goes from a session, up to a fault. Nothing but these calls
makes a difference to the session: the run leaves what reporting at them leaves, one after the other
(`ValidatorOf.final_runOn`).

So all that a run adds to the errors of an attribute is what the check answers there
(`errors_reportEach`), and all that a filter makes of a value is what its function makes of it there
(`read_reportEach`), once at most for each call.
-/

namespace RecordValidation

open Outcome

/-! ## Values that are written and read -/

/-- What is written to an attribute of a record is read there, and the other attributes are read as
before. -/
structure Host.WritesAlone {ρ : Type} (host : Host ρ) : Prop where
  same : ∀ {record written : ρ} {name : String} {value : Value},
    host.write record (.text name) value = .ok written → host.read written (.text name) = .ok value
  other : ∀ {record written : ρ} {name other : String} {value : Value}, other ≠ name →
    host.write record (.text name) value = .ok written →
      host.read written (.text other) = host.read record (.text other)

/-- Texts that are unlike are unlike as values. -/
theorem Value.text_beq_text_of_ne {a b : String} (unlike : a ≠ b) : (text a == text b) = false := by
  rw [text_beq_text]
  exact beq_eq_false_iff_ne.2 unlike

/-- A plain record keeps what is written to it. -/
theorem PlainRecord.writesAlone (plain : PlainRecord) : plain.host.WritesAlone where
  same done := by
    refine (read_write _ done rfl).trans ?_
    rw [if_pos BEq.rfl]
  other unlike done := read_write_of_unlike done (Value.text_beq_text_of_ne unlike)

/-- A model keeps what is written to it, however its methods are called. Reading and writing do not
ask for methods, and a key that is held has its value changed in its place. -/
theorem Model.writesAlone (type : ModelType)
    (invoke : String → Value → Value → Act Model Value) :
    (hostWith type invoke).WritesAlone where
  same := by
    intro record written name value done
    simp only [hostWith, write, read, Value.asName, Value.unhashablePart?, bind, Except.bind] at *
    split at done
    · obtain rfl := Except.ok.inj done
      simp only [OrderedMap.get?_insert, BEq.rfl, ↓reduceIte]
      rfl
    · cases done
  other := by
    intro record written name other value unlike done
    simp only [hostWith, write, Value.asName, Value.unhashablePart?, bind, Except.bind] at done
    split at done
    · obtain rfl := Except.ok.inj done
      refine read_congr rfl ?_
      rw [OrderedMap.get?_insert, Value.text_beq_text_of_ne unlike, if_neg Bool.false_ne_true]
    · cases done

/-- What becomes of a value if a function is called so many times in a row, first on the value and
then on what it gave. -/
def Value.callTimes (function : Value) : Nat → Value → Outcome Value
  | 0, value => .ok value
  | times + 1, value => do callTimes function times (← function.callOn value)

/-! ## Calls of the check -/

namespace ValidatorOf

variable {ρ : Type}

/-- Ask what could leave an attribute out; whether nothing does. -/
def reaches (host : Host ρ) (validator : Validator) (name : Value) : Act ρ Bool := do
  if ← validator.skipsFailing name then return false
  if ← validator.skipsEmpty host name then return false
  return !(← validator.skipsGuarded host name)

/-- An attribute is checked exactly if nothing leaves it out. The same three questions come on both
sides, and each is split on its answer. -/
theorem checkAttribute_eq_reaches (host : Host ρ) (validator : Validator) (name : Value) :
    validator.checkAttribute host name = (do
      if ← validator.reaches host name then validator.report host name) := by
  unfold checkAttribute reaches
  rw [bind_assoc]
  congr 1
  funext failing
  cases failing with
  | true => rfl
  | false =>
    simp only [Bool.false_eq_true, ↓reduceIte, bind_assoc]
    congr 1
    funext empty
    cases empty with
    | true => rfl
    | false =>
      simp only [Bool.false_eq_true, ↓reduceIte, bind_assoc, pure_bind]
      congr 1
      funext refused
      cases refused <;> rfl

/-- Whether the check is called at an attribute, from a session. -/
def callsAt (host : Host ρ) (validator : Validator) (session : Session ρ) (name : String) : Bool :=
  match (validator.reaches host (.text name)).outcome session with
  | .ok reached => reached
  | .error _ => false

/-- The attributes at which the check is called when some attributes are gone through from a
session, until one stops. -/
def callsIn (host : Host ρ) (validator : Validator) : List String → Session ρ → List String
  | [], _ => []
  | name :: rest, session =>
    let later :=
      match (validator.checkAttribute host (.text name)).outcome session with
      | .ok _ => callsIn host validator rest
          ((validator.checkAttribute host (.text name)).final session)
      | .error _ => []
    if validator.callsAt host session name then name :: later else later

/-- The attributes at which the check is called when the validator runs on what is requested. -/
def checkCalls (host : Host ρ) (validator : Validator) (requested : Value) (session : Session ρ) :
    List String :=
  if validator.checks then
    match validator.coveredBy requested with
    | .ok names => validator.callsIn host names session
    | .error _ => []
  else []

variable {host : Host ρ} {validator : Validator} {session : Session ρ}

/-- The check is called at attributes that are gone through, in their order. At some of them the
check may not be called, and behind a fault at none. -/
theorem callsIn_sublist (host : Host ρ) (validator : Validator) (names : List String)
    (session : Session ρ) : (validator.callsIn host names session).Sublist names := by
  induction names generalizing session with
  | nil => exact List.Sublist.slnil
  | cons name rest inductionHypothesis =>
    have later : (match (validator.checkAttribute host (.text name)).outcome session with
        | .ok _ => callsIn host validator rest
            ((validator.checkAttribute host (.text name)).final session)
        | .error _ => []).Sublist rest := by
      split
      · exact inductionHypothesis _
      · exact List.nil_sublist rest
    rw [callsIn]
    split
    · exact later.cons_cons name
    · exact later.cons name

/-- What is asked before the check leaves the session as it is. They look at the errors and at
values, and a guard answers without changing anything. -/
theorem final_reaches (host : Host ρ) (validator : Validator) (name : Value)
    (session : Session ρ) : (validator.reaches host name).final session = session := by
  have offers := host.keepsOffers (id : Session ρ → Session ρ)
  have looks : Act.Keeps id (validator.skipsFailing name : Act ρ Bool) :=
    offers.bind Act.keeps_errors fun _ => offers.pure _
  have kept : Act.Keeps id (validator.reaches host name) := by
    refine offers.bind looks fun failing => ?_
    split
    · exact offers.pure _
    have asks := validator.asksWithin_true name
    refine offers.bind (offers.toOffersAt.skipsEmpty asks) fun empty => ?_
    split
    · exact offers.pure _
    exact offers.bind (offers.toOffersAt.skipsGuarded asks) fun _ => offers.pure _
  exact kept session

/-- An attribute at which the check is not called leaves the session as it is, and one at which it
is called leaves what the report leaves. -/
theorem final_checkAttribute (host : Host ρ) (validator : Validator) (name : String)
    (session : Session ρ) :
    (validator.checkAttribute host (.text name)).final session =
      if validator.callsAt host session name then
        (validator.report host (.text name)).final session
      else session := by
  rw [checkAttribute_eq_reaches, Act.final_bind, final_reaches, callsAt]
  cases (validator.reaches host (.text name)).outcome session with
  | error fault => rfl
  | ok reached => cases reached <;> rfl

/-- Going through some attributes is checking the first and going through the rest. -/
theorem run_cons (host : Host ρ) (validator : Validator) (name : String) (rest : List String) :
    validator.run host (name :: rest) =
      (validator.checkAttribute host (.text name) >>= fun _ => validator.run host rest) := rfl

/-- What reports at some attributes leave, one after the other. -/
def reportEach (host : Host ρ) (validator : Validator) (names : List String)
    (session : Session ρ) : Session ρ :=
  names.foldl (fun reached name => (validator.report host (.text name)).final reached) session

/-- Going through some attributes leaves what the reports leave where the check is called.

Proof: by induction on the attributes. At the first the check is called or nothing happens, and
whether the rest is gone through or not, it is so for the calls as it is for the session. -/
theorem final_run (host : Host ρ) (validator : Validator) (names : List String)
    (session : Session ρ) :
    (validator.run host names).final session =
      validator.reportEach host (validator.callsIn host names session) session := by
  induction names generalizing session with
  | nil => rfl
  | cons name rest inductionHypothesis =>
    have first := final_checkAttribute host validator name session
    rw [run_cons, Act.final_bind, callsIn]
    cases (validator.checkAttribute host (.text name)).outcome session with
    | ok done =>
      simp only [inductionHypothesis]
      split at first <;> rw [first] <;> simp only [*, ↓reduceIte] <;> rfl
    | error fault =>
      split at first <;> rw [first] <;> simp only [*, ↓reduceIte] <;> rfl

/-- A validator that leaves out nothing before it calls its check. -/
structure Unconditional (validator : Validator) : Prop where
  onError : validator.skipOnError.truthy = false
  onEmpty : validator.skipOnEmpty.truthy = false
  unguarded : validator.guard.isNull = true

/-- A validator that leaves out nothing calls its check at each attribute, if nothing stops. What
leaves attributes out is switched off, so only a fault could end the calls, and the premise excludes
that. -/
theorem callsIn_of_unconditional (unconditional : validator.Unconditional) {names : List String}
    (done : (validator.run host names).outcome session = .ok ()) :
    validator.callsIn host names session = names := by
  have reached (name : String) (session : Session ρ) :
      validator.callsAt host session name = true := by
    simp only [callsAt, reaches, skipsFailing, skipsEmpty, skipsGuarded, unconditional.onError,
      unconditional.onEmpty, unconditional.unguarded]
    rfl
  induction names generalizing session with
  | nil => rfl
  | cons name rest inductionHypothesis =>
    rw [run_cons, Act.outcome_bind_eq_ok_iff] at done
    obtain ⟨⟨⟩, first, restDone⟩ := done
    rw [callsIn, first, if_pos (reached name session)]
    exact congrArg (name :: ·) (inductionHypothesis restDone)

/-- What is covered of a request is among the attributes of the validator, in their order. -/
theorem sublist_of_coveredBy {requested : Value} {names : List String}
    (told : validator.coveredBy requested = .ok names) :
    names.Sublist validator.attributeNames := by
  obtain ⟨own, ownTold, others⟩ := bind_eq_ok_iff.1 told
  have areTexts := Descriptor.texts_of_names ownTold
  obtain rfl : validator.attributeNames = own :=
    Except.ok.inj ((Descriptor.names_of_texts areTexts).symm.trans ownTold)
  have among {request : Option (List Value)} (told : validator.covered request = .ok names) :
      names.Sublist validator.attributeNames := by
    obtain ⟨own, again, others⟩ := bind_eq_ok_iff.1 told
    obtain rfl := Except.ok.inj (again.symm.trans ownTold)
    cases request with
    | none =>
      obtain rfl := Except.ok.inj others
      exact List.Sublist.refl _
    | some wanted =>
      obtain ⟨named, -, whole⟩ := bind_eq_ok_iff.1 others
      obtain rfl := Except.ok.inj whole
      exact List.filter_sublist
  split at others
  · exact among others
  · obtain ⟨items, -, others⟩ := bind_eq_ok_iff.1 others
    exact among others

/-- A validator that runs leaves what the reports leave where its check is called. It may have no
check, or be unable to tell what it covers, and then it leaves the session and there are no
calls. -/
theorem final_runOn (host : Host ρ) (validator : Validator) (requested : Value)
    (session : Session ρ) :
    (validator.runOn host requested).final session =
      validator.reportEach host (validator.checkCalls host requested session) session := by
  unfold runOn checkCalls
  cases validator.checks with
  | false => rfl
  | true =>
    cases validator.coveredBy requested with
    | error fault => rfl
    | ok names => exact validator.final_run host names session

/-- The check is called at attributes of the validator, in their order. -/
theorem checkCalls_sublist (host : Host ρ) (validator : Validator) (requested : Value)
    (session : Session ρ) :
    (validator.checkCalls host requested session).Sublist validator.attributeNames := by
  unfold checkCalls
  split
  · split
    case h_1 names told =>
      exact (validator.callsIn_sublist host names session).trans (sublist_of_coveredBy told)
    case h_2 => exact List.nil_sublist _
  · exact List.nil_sublist _

/-- A validator that leaves out nothing and runs to its end calls its check at each attribute that
it covers. -/
theorem coveredBy_of_unconditional {requested : Value}
    (unconditional : validator.Unconditional) (checks : validator.checks = true)
    (done : (validator.runOn host requested).outcome session = .ok ()) :
    validator.coveredBy requested = .ok (validator.checkCalls host requested session) := by
  unfold checkCalls
  unfold runOn at done
  rw [if_pos checks] at done ⊢
  cases told : validator.coveredBy requested with
  | error fault =>
    rw [told] at done
    cases done
  | ok names =>
    rw [told] at done
    exact congrArg Except.ok (callsIn_of_unconditional unconditional done).symm

/-! ## What the calls come to -/

/-- What a validator answers about an attribute, in some session. -/
def Answers (host : Host ρ) (validator : Validator) (name : String) (messages : List Value) :
    Prop :=
  ∃ reached, (validator.verdict host (.text name)).outcome reached = .ok messages

/-- A report adds an answer to the errors of its attribute, or nothing if the check stops. The
verdict itself leaves the errors, so the answer is added to those the report began with. -/
theorem errors_report (calls : validator.CallsKeep host Session.errors) (name : String)
    (session : Session ρ) :
    ((validator.report host (.text name)).final session).errors = session.errors ∨
      ∃ messages, validator.Answers host name messages ∧
        ((validator.report host (.text name)).final session).errors =
          session.errors.addEach (.text name) messages := by
  have kept : Act.Keeps Session.errors (validator.verdict host (.text name)) := by
    refine (host.keepsOffers Session.errors).verdict validator _ ?_ ?_
    · exact fun _ value => host.keeps_set (fun _ _ => rfl) _ value
    · exact fun method params bound isInline => calls method params bound isInline _
  rw [Turn.report_eq host ⟨validator, name⟩, Act.final_bind]
  cases answered : (validator.verdict host (.text name)).outcome session with
  | error fault => exact .inl (kept session)
  | ok messages =>
    refine .inr ⟨messages, ⟨session, answered⟩, ?_⟩
    simp only [Act.final, Turn.run_addErrors]
    exact congrArg (fun errors => errors.addEach (.text name) messages) (kept session)

/-- What reports add to the errors of an attribute is what the check answers about it, once at most
for each report there. The induction is on the reports. One at another attribute adds nothing here,
and one that stops adds nothing anywhere. -/
theorem errors_reportEach (calls : validator.CallsKeep host Session.errors) (name : String)
    (names : List String) (session : Session ρ) :
    ∃ answers : List (List Value), answers.length ≤ names.count name ∧
      (∀ messages ∈ answers, validator.Answers host name messages) ∧
      (validator.reportEach host names session).errors.get (.text name) =
        session.errors.get (.text name) ++ answers.flatten := by
  induction names generalizing session with
  | nil => exact ⟨[], Nat.le_refl 0, List.forall_mem_nil _, (List.append_nil _).symm⟩
  | cons first rest inductionHypothesis =>
    obtain ⟨answers, few, areAnswers, added⟩ :=
      inductionHypothesis ((validator.report host (.text first)).final session)
    have later : rest.count name ≤ (first :: rest).count name := List.count_le_count_cons
    rw [reportEach, List.foldl_cons, ← reportEach, added]
    obtain unchanged | ⟨messages, answer, became⟩ := errors_report calls first session
    · exact ⟨answers, Nat.le_trans few later, areAnswers, by rw [unchanged]⟩
    by_cases here : first = name
    · subst here
      refine ⟨messages :: answers, ?_, List.forall_mem_cons.2 ⟨answer, areAnswers⟩, ?_⟩
      · rw [List.count_cons_self]
        exact Nat.succ_le_succ few
      · rw [became, ErrorBag.get_addEach_self, List.flatten_cons, List.append_assoc]
    · refine ⟨answers, Nat.le_trans few later, areAnswers, ?_⟩
      have unlike := Value.text_beq_text_of_ne (Ne.symm here)
      rw [became, ErrorBag.get, ErrorBag.get?_addEach_of_unlike _ _ unlike, ← ErrorBag.get]

/-- A filter leaves the session, or writes to the attribute what the function makes of its value. It
leaves the session if the value is a list that is skipped, or if reading, calling or writing
stops. -/
theorem final_transform (host : Host ρ) (function skipList : Value) (name : String)
    (session : Session ρ) :
    (transform host function skipList (.text name)).final session = session ∨
      ∃ value result written, host.read session.record (.text name) = .ok value ∧
        function.callOn value = .ok result ∧
        host.write session.record (.text name) result = .ok written ∧
        (transform host function skipList (.text name)).final session =
          { session with record := written } := by
  have got : (host.get (.text name)).final session = session :=
    (host.keepsOffers (id : Session ρ → Session ρ)).get (.text name) session
  have gives : (host.get (.text name)).outcome session =
      host.read session.record (.text name) := Act.outcome_ofOutcome _ session
  rw [transform, Act.final_bind, got, gives]
  cases held : host.read session.record (.text name) with
  | error fault => exact .inl rfl
  | ok value =>
    dsimp only
    split
    case isFalse => exact .inl rfl
    case isTrue =>
      cases made : function.callOn value with
      | error fault => exact .inl rfl
      | ok result =>
        simp only [Act.ofOutcome_ok, pure_bind, Act.final, Host.run_set]
        cases wrote : host.write session.record (.text name) result with
        | error fault => exact .inl rfl
        | ok written => exact .inr ⟨value, result, written, rfl, made, wrote, rfl⟩

/-- A filter reports what it leaves. -/
theorem record_report (host : Host ρ) {function skipList : Value}
    (filters : validator.check = .filter function skipList) (name : String)
    (session : Session ρ) :
    ((validator.report host (.text name)).final session).record =
      ((transform host function skipList (.text name)).final session).record := by
  have verdict : validator.verdict host (.text name) = (do
      transform host function skipList (.text name)
      return []) := by
    rw [ValidatorOf.verdict, filters]
  rw [report, verdict, bind_assoc, Act.final_bind]
  cases (transform host function skipList (.text name)).outcome session <;> rfl

/-- What reports of a filter make of the value of an attribute is what its function makes of it,
called as many times in a row as there are reports there, or fewer times. The induction is on the
reports: one at this attribute calls the function once more, on what the ones before it have made of
the value, unless the filter leaves the session. -/
theorem read_reportEach (alone : host.WritesAlone) {function skipList : Value}
    (filters : validator.check = .filter function skipList) (name : String)
    (names : List String) {session : Session ρ} {value : Value}
    (held : host.read session.record (.text name) = .ok value) :
    ∃ times ≤ names.count name,
      host.read (validator.reportEach host names session).record (.text name) =
        function.callTimes times value := by
  induction names generalizing session value with
  | nil => exact ⟨0, Nat.le_refl 0, held⟩
  | cons first rest inductionHypothesis =>
    have later : rest.count name ≤ (first :: rest).count name := List.count_le_count_cons
    rw [reportEach, List.foldl_cons, ← reportEach]
    have reported := record_report host filters first session
    obtain unchanged | ⟨found, result, written, read, made, wrote, became⟩ :=
      final_transform host function skipList first session
    · rw [unchanged] at reported
      obtain ⟨times, few, whole⟩ := inductionHypothesis (reported ▸ held)
      exact ⟨times, Nat.le_trans few later, whole⟩
    replace reported := reported.trans (congrArg Session.record became)
    dsimp only at reported
    by_cases here : first = name
    · subst here
      obtain rfl : found = value := Except.ok.inj (read.symm.trans held)
      have next := alone.same wrote
      obtain ⟨times, few, whole⟩ := inductionHypothesis (reported ▸ next)
      refine ⟨times + 1, ?_, ?_⟩
      · rw [List.count_cons_self]
        exact Nat.succ_le_succ few
      · rw [Value.callTimes, made]
        exact whole
    · have next := (alone.other (Ne.symm here) wrote).trans held
      obtain ⟨times, few, whole⟩ := inductionHypothesis (reported ▸ next)
      exact ⟨times, Nat.le_trans few later, whole⟩

end ValidatorOf

end RecordValidation
