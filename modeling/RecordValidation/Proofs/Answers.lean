import RecordValidation.Proofs.CheckWalk

/-!
# From complaints to answers

A check that only looks at the value of an attribute answers with its complaint about the value,
worded (`ValidatorOf.outcome_verdict_of_judgesValue`); a comparison looks at its target as well
(`ValidatorOf.outcome_verdict_of_compares`). `ValidatorOf.IsAnswer` is what a check should come to,
no message or one. It comes to that if there is a complaint or none, the template is a text and the
attribute has a label (`ValidatorOf.isAnswer_word`).
-/

namespace RecordValidation

/-- A value can be given in place of a template: a text, or one that does not count as true, and
then the template stays. -/
def Value.IsWording (value : Value) : Prop :=
  value.truthy = true → ∃ template, value = .text template

/-- A complaint has a text for its template. -/
def Complaint.IsWorded (complaint : Complaint) : Prop :=
  ∃ template, complaint.template = .text template

/-- What is given in place of a template, or else the template, is a text. -/
theorem Value.IsWording.orDefault {value : Value} (wording : value.IsWording) (default : String) :
    ∃ template, value.orDefault default = .text template := by
  unfold Value.orDefault
  by_cases given : value.truthy = true
  · rw [if_pos given]
    exact wording given
  · exact ⟨default, if_neg given⟩

/-- A complaint with a text for its template has a wording under every label. -/
theorem Complaint.IsWorded.exists_render {complaint : Complaint} (worded : complaint.IsWorded)
    (label : Value) : ∃ message, complaint.render label = .ok message := by
  obtain ⟨template, isText⟩ := worded
  unfold Complaint.render
  rw [isText]
  exact ⟨_, rfl⟩

namespace Host

variable {ρ α : Type} {host : Host ρ} {name value : Value} {session : Session ρ}

/-- The value of an attribute is handed to what comes after asking for it. Asking changes nothing,
so what comes after begins in the same session. -/
theorem outcome_get_bind (read : host.read session.record name = .ok value)
    (next : Value → Act ρ α) :
    (host.get name >>= next).outcome session = (next value).outcome session := by
  have got : (host.get name).outcome session = .ok value :=
    (Act.outcome_ofOutcome _ session).trans read
  have kept : (host.get name).final session = session := (host.keepsOffers id).get name session
  rw [Act.outcome_bind_of_kept kept, got]
  rfl

/-- The label of an attribute is handed to what comes after asking for it. Unlike the value, the
label may be refused, so its outcome stands on the right. -/
theorem outcome_labelOf_bind (next : Value → Act ρ α) :
    (host.labelOf name >>= next).outcome session =
      (host.labelOf name).outcome session >>= fun label => (next label).outcome session :=
  Act.outcome_bind_of_kept ((host.keepsOffers id).labelOf name session)

end Host

namespace ValidatorOf

variable {ρ : Type} {host : Host ρ} {name : Value} {session : Session ρ}

/-- One message. -/
def IsMessage (given : Outcome (List Value)) : Prop :=
  ∃ message : String, given = .ok [.text message]

/-- No message or one. -/
def IsAnswer (given : Outcome (List Value)) : Prop := given = .ok [] ∨ IsMessage given

/-- A complaint is worded with the label of the attribute. The label is asked for only now, when
there is something to word. -/
theorem outcome_word_some (complaint : Complaint) :
    (word host name (some complaint)).outcome session =
      (host.labelOf name).outcome session >>= fun label =>
        complaint.render label >>= fun message => .ok [.text message] := by
  rw [word, Complaint.worded, map_eq_pure_bind, bind_assoc, Host.outcome_labelOf_bind]
  cases (host.labelOf name).outcome session with
  | error fault => rfl
  | ok label =>
    change ((Act.ofOutcome (complaint.render label) >>= fun message =>
      pure (Value.text message)) >>= fun message => pure [message]).outcome session = _
    rw [bind_assoc, Act.outcome_ofOutcome_bind]
    rfl

/-- A complaint with a text for its template is worded as one message. -/
theorem isMessage_word {label : Value} (labelled : (host.labelOf name).outcome session = .ok label)
    {complaint : Complaint} (worded : complaint.IsWorded) :
    IsMessage ((word host name (some complaint)).outcome session) := by
  obtain ⟨message, rendered⟩ := worded.exists_render label
  refine ⟨message, ?_⟩
  rw [outcome_word_some, labelled]
  change complaint.render label >>= _ = _
  rw [rendered]
  rfl

/-- What there is to complain about, if anything, comes to an answer. -/
theorem isAnswer_word {label : Value} (labelled : (host.labelOf name).outcome session = .ok label)
    {complaint : Option Complaint} (worded : ∀ given ∈ complaint, given.IsWorded) :
    IsAnswer ((word host name complaint).outcome session) := by
  cases complaint with
  | none => exact .inl rfl
  | some complaint => exact .inr (isMessage_word labelled (worded complaint rfl))

/-- Whether the check of a validator only looks at the value of an attribute. -/
def judgesValue (validator : Validator) : Bool :=
  match validator.check with
  | .required .. | .string _ | .number _ | .integer _ | .boolean .. | .range .. | .pattern .. =>
    true
  | _ => false

/-- A check that only looks at the value answers with its complaint about the value, worded. The
kinds that do are asked in one way, by their complaint about a value. -/
theorem outcome_verdict_of_judgesValue {validator : Validator} {value : Value}
    (judges : validator.judgesValue = true)
    (read : host.read session.record name = .ok value) :
    (validator.verdict host name).outcome session =
      validator.valueComplaint? value >>= fun complaint =>
        (word host name complaint).outcome session := by
  have asks : validator.verdict host name = (do
      let value ← host.get name
      word host name (← Act.ofOutcome (validator.valueComplaint? value))) := by
    unfold judgesValue at judges
    unfold verdict
    cases check : validator.check with
    | required | string | number | integer | boolean | range | pattern => rfl
    | _ =>
      rw [check] at judges
      cases judges
  rw [asks, Host.outcome_get_bind read, Act.outcome_ofOutcome_bind]

/-- A comparison answers with its complaint about the value and the target, worded. Finding the
target asks questions too, and leaves the session, so the complaint is made where the check
began. -/
theorem outcome_verdict_of_compares {validator : Validator} {other constant value : Value}
    {relation : Relation} {comparedAs : ComparedAs} {target : Target}
    (compares : validator.check = .compare other constant relation comparedAs)
    (read : host.read session.record name = .ok value)
    (found : (Target.find host other constant name).outcome session = .ok target) :
    (validator.verdict host name).outcome session =
      relation.complaint? comparedAs validator.message value target.value target.shown >>=
        fun complaint => (word host name complaint).outcome session := by
  have asks : validator.verdict host name = (do
      let value ← host.get name
      let target ← Target.find host other constant name
      word host name (← Act.ofOutcome
        (relation.complaint? comparedAs validator.message value target.value target.shown))) := by
    unfold verdict
    rw [compares]
  have kept : (Target.find host other constant name).final session = session :=
    (host.keepsOffers id).toOffersAt.find (fun _ => trivial) session
  rw [asks, Host.outcome_get_bind read, Act.outcome_bind_of_kept kept, found]
  exact Act.outcome_ofOutcome_bind _ _ session

end ValidatorOf

namespace PlainRecord

/-- A record without labels that has a value for the attribute `v`. -/
def ofValue (value : Value) : PlainRecord := ⟨⟨[("v", value)]⟩, none⟩

/-- Work on a record with a value for the attribute `v` that begins without errors. -/
def valueSession (value : Value) : Session PlainRecord :=
  { record := .ofValue value, errors := .empty, events := [] }

end PlainRecord

end RecordValidation
