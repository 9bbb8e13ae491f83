import RecordValidation.Proofs.Effects

/-!
# Walking through the checks

A validator that runs asks the record for values and labels, calls functions, writes if it is a
transform, and adds messages. Which attributes it asks for is told by the validator
(`ValidatorOf.AsksWithin`). `Host.OffersAt` says that a compositional property holds of what a
record is asked for at known attributes; then it holds of all that a validator does that asks for
no others, but for writing, calling a function of an inline check and adding messages, and of those
as well if it holds of them (`Host.OffersAt.verdict`).

Where the property holds of reading any attribute, no attribute has to be known: that is
`Host.Offers`, with `Host.Offers.verdict` and `Host.Offers.checkAttribute`.

Each function that a validator calls has its own lemma, named for it and proved from those of the
functions it calls in turn.
-/

namespace RecordValidation

/-- The attribute whose value a function asks for that is called with the record and an attribute,
if it asks for one. -/
def Value.asked? : Value → Option Value
  | .script (.guardValue other) | .script (.defaultOf other) => some other
  | _ => none

namespace ValidatorOf

/-- Whether a validator writes to the record instead of complaining. -/
def transforms (validator : Validator) : Bool :=
  match validator.check with
  | .default _ | .filter .. => true
  | _ => false

/-- The attribute that the value of an attribute is compared with, if it is not compared with a
constant. -/
def target? (validator : Validator) (name : Value) : Option Value :=
  match validator.check with
  | .compare other constant .. =>
    if constant.isNull then some (other.orDefault (name.toText ++ "_repeat")) else none
  | _ => none

/-- The attribute whose value a validator asks for to fill it in. -/
def filledFrom? (validator : Validator) : Option Value :=
  match validator.check with
  | .default value => value.asked?
  | _ => none

/-- At an attribute, a validator asks for the values of no others than known ones, the function of
an inline check apart. -/
structure AsksWithin (known : Value → Prop) (validator : Validator) (name : Value) : Prop where
  own : known name
  target : ∀ other ∈ validator.target? name, known other
  guard : ∀ other ∈ validator.guard.asked?, known other
  default : ∀ other ∈ validator.filledFrom?, known other

instance (known : Value → Prop) [DecidablePred known] (validator : Validator) (name : Value) :
    Decidable (validator.AsksWithin known name) :=
  decidable_of_iff (known name ∧ (∀ other ∈ validator.target? name, known other) ∧
      (∀ other ∈ validator.guard.asked?, known other) ∧
      ∀ other ∈ validator.filledFrom?, known other)
    ⟨fun ⟨own, target, guard, default⟩ => ⟨own, target, guard, default⟩,
      fun asks => ⟨asks.own, asks.target, asks.guard, asks.default⟩⟩

/-- Where everything is known, nothing unknown is asked for. -/
theorem asksWithin_true (validator : Validator) (name : Value) :
    validator.AsksWithin (fun _ => True) name :=
  ⟨trivial, fun _ _ => trivial, fun _ _ => trivial, fun _ _ => trivial⟩

end ValidatorOf

variable {ρ : Type}

/-- A compositional property that holds of what a record is asked for, where the attributes whose
values it is asked for are known. -/
structure Host.OffersAt (host : Host ρ) (known : Value → Prop)
    (holds : ∀ ⦃α : Type⦄, Act ρ α → Prop) : Prop extends Act.Compositional holds where
  get : ∀ name, known name → holds (host.get name)
  labelOf : ∀ name, holds (host.labelOf name)
  sequence : holds (do Act.ofOutcome (host.asSequence (← Act.record)) : Act ρ Value)
  errors : host.knowsErrors = true → holds (Act.errors : Act ρ ErrorBag)

namespace Host.OffersAt

variable {host : Host ρ} {known : Value → Prop} {holds : ∀ ⦃α : Type⦄, Act ρ α → Prop}

/-- The property holds of a script called with the record and an attribute. Only three scripts ask
the record for something: two for the value of another attribute and one for the errors, if the
record knows them. -/
theorem onAttribute (offers : host.OffersAt known holds) (name : Value) {called : Script}
    (asks : ∀ other ∈ (Value.script called).asked?, known other) :
    holds (Script.onAttribute host name called) := by
  cases called with
  | guardConst | guardAttribute | defaultAttribute => exact offers.pure _
  | guardValue other | defaultOf other => exact offers.get other (asks other rfl)
  | guardValid =>
    simp only [Script.onAttribute]
    split
    · rename_i knows
      exact offers.bind (offers.errors knows) fun _ => offers.pure _
    · exact offers.throw _ trivial
  | _ => exact offers.throw _ trivial

/-- The property holds of a kind of checks called with the record. The record is gone through as a
sequence of attributes, and building the validator looks at values alone. -/
theorem callKind (offers : host.OffersAt known holds) (named : CheckKind) (given : List Value) :
    holds (Value.callKind host named given) := by
  have calls := offers.bind offers.sequence fun attributes =>
    offers.map Value.validator (offers.ofOutcome (faultsIn_constructByPlace named attributes given))
  rwa [bind_assoc] at calls

/-- What is called with the record and an attribute is a script or a kind of checks. -/
theorem callOnAttribute (offers : host.OffersAt known holds) {function : Value} (name : Value)
    (asks : ∀ other ∈ function.asked?, known other) :
    holds (function.callOnAttribute host name) := by
  unfold Value.callOnAttribute
  split
  · exact offers.onAttribute name asks
  · exact offers.callKind _ _
  · exact offers.throw _ trivial

/-! ## Looking at a value and writing one -/

/-- The target of a comparison is read from the record if it is no constant. Besides its value the
record is asked for its label, which is put into the message. -/
theorem find (offers : host.OffersAt known holds) {other constant name : Value}
    (asks : constant.isNull = true → known (other.orDefault (name.toText ++ "_repeat"))) :
    holds (Target.find host other constant name) := by
  unfold Target.find
  split
  · rename_i compared
    exact offers.bind (offers.get _ (asks compared)) fun _ =>
      offers.bind (offers.labelOf _) fun _ => offers.pure _
  · exact offers.pure _

/-- Filling in a value reads the attribute and perhaps writes it. What is filled in is known only
when the value counts as empty, so the record is asked for its own value first and for another one
perhaps. -/
theorem fillIn (offers : host.OffersAt known holds) (validator : Validator) {default name : Value}
    (own : known name) (asks : ∀ other ∈ default.asked?, known other)
    (writes : ∀ value, holds (host.set name value)) :
    holds (RecordValidation.fillIn host validator default name) := by
  have value : holds (defaultFor host default name) := by
    unfold defaultFor
    split
    · exact offers.callOnAttribute name asks
    · exact offers.pure default
  refine offers.bind (offers.get name own) fun held => ?_
  refine offers.bind (offers.ofOutcome (validator.faultsIn_countsAsEmpty held)) fun empty => ?_
  split
  · exact offers.bind value writes
  · exact offers.pure ()

/-- Replacing a value reads the attribute and perhaps writes it. The function gets the value and not
the record. -/
theorem transform (offers : host.OffersAt known holds) (function skipList : Value) {name : Value}
    (own : known name) (writes : ∀ value, holds (host.set name value)) :
    holds (RecordValidation.transform host function skipList name) := by
  refine offers.bind (offers.get name own) fun held => ?_
  split
  · exact offers.bind (offers.ofOutcome (function.faultsIn_callOn held)) writes
  · exact offers.pure ()

/-- Wording a complaint asks the record for a label. Without a complaint nothing is asked. The label
is asked for even if the message has no place for it. -/
theorem word (offers : host.OffersAt known holds) (name : Value) (complaint : Option Complaint) :
    holds (ValidatorOf.word host name complaint) := by
  cases complaint with
  | none => exact offers.pure []
  | some complaint =>
    refine offers.map _ (offers.bind (offers.labelOf name) fun label => ?_)
    exact offers.bind (offers.ofOutcome (complaint.faultsIn_render label)) fun _ => offers.pure _

/-! ## Validators -/

section

variable (offers : host.OffersAt known holds) {validator : Validator} {name : Value}
  (asks : validator.AsksWithin known name)

include offers asks

/-- What a validator says about an attribute, if the property holds of what the validator writes and
of the function it calls for complaints. The kinds of checks that only look share one case: they
read their own attribute and word what they have to say. Comparisons read one attribute more, the
two transforms write, and an inline check is what it is assumed to be. -/
theorem verdict (writes : validator.transforms = true → ∀ value, holds (host.set name value))
    (calls : ∀ method params bound, validator.check = .inline method params bound →
      holds (RecordValidation.inlineComplaints host method params bound name)) :
    holds (validator.verdict host name) := by
  have targets := asks.target
  have defaults := asks.default
  unfold ValidatorOf.verdict
  unfold ValidatorOf.transforms at writes
  unfold ValidatorOf.target? at targets
  unfold ValidatorOf.filledFrom? at defaults
  cases kind : validator.check with
  | safe => exact offers.pure []
  | alwaysFails => exact offers.pure _
  | compare other constant relation comparedAs =>
    rw [kind] at targets
    refine offers.bind (offers.get name asks.own) fun value => ?_
    refine offers.bind (offers.find fun compared => targets _ (if_pos compared)) fun target => ?_
    exact offers.bind (offers.ofOutcome (Relation.faultsIn_complaint? _ _ _ value _ _))
      fun complaint => offers.word name complaint
  | default value =>
    refine offers.bind ?_ fun _ => offers.pure []
    rw [kind] at defaults
    refine offers.fillIn validator asks.own defaults (writes ?_)
    rw [kind]
  | filter function skipList =>
    refine offers.bind (offers.transform function skipList asks.own (writes ?_)) fun _ =>
      offers.pure []
    rw [kind]
  | inline method params bound => exact calls method params bound kind
  | _ =>
    refine offers.bind (offers.get name asks.own) fun value => ?_
    exact offers.bind (offers.ofOutcome (validator.faultsIn_valueComplaint? value))
      fun complaint => offers.word name complaint

/-- Whether a value is empty is asked of the value alone. -/
theorem skipsEmpty : holds (validator.skipsEmpty host name) := by
  unfold ValidatorOf.skipsEmpty
  split
  · exact offers.bind (offers.get name asks.own) fun value =>
      offers.ofOutcome (validator.faultsIn_countsAsEmpty value)
  · exact offers.pure false

/-- Whether a guard refuses an attribute is asked of the guard. -/
theorem skipsGuarded : holds (validator.skipsGuarded host name) := by
  unfold ValidatorOf.skipsGuarded
  split
  · exact offers.pure false
  · exact offers.bind (offers.callOnAttribute name asks.guard) fun _ => offers.pure _

end

end Host.OffersAt

/-! ## Records that may be asked for any attribute -/

/-- A compositional property that holds of all that a record is asked for. -/
structure Host.Offers (host : Host ρ) (holds : ∀ ⦃α : Type⦄, Act ρ α → Prop) : Prop extends
    Act.Compositional holds where
  record : holds (Act.record : Act ρ ρ)
  read : ∀ record name, holds (Act.ofOutcome (host.read record name) : Act ρ Value)
  label : ∀ label, host.label? = some label →
    ∀ record name, holds (Act.ofOutcome (label record name) : Act ρ Value)
  asSequence : ∀ record, holds (Act.ofOutcome (host.asSequence record) : Act ρ Value)
  errors : host.knowsErrors = true → holds (Act.errors : Act ρ ErrorBag)

namespace Host.Offers

variable {host : Host ρ} {holds : ∀ ⦃α : Type⦄, Act ρ α → Prop}

/-- Reading an attribute of the record as it is has the property. -/
theorem get (offers : host.Offers holds) (name : Value) : holds (host.get name) :=
  offers.bind offers.record fun record => offers.read record name

/-- Asking for the label of an attribute has the property, whether the record labels its attributes
or the name stands for itself. -/
theorem labelOf (offers : host.Offers holds) (name : Value) : holds (host.labelOf name) := by
  unfold Host.labelOf
  split
  · rename_i label labelled
    exact offers.bind offers.record fun record => offers.label label labelled record name
  · exact offers.pure name

/-- All attributes count as known. -/
theorem toOffersAt (offers : host.Offers holds) : host.OffersAt (fun _ => True) holds where
  toCompositional := offers.toCompositional
  get name _ := offers.get name
  labelOf := offers.labelOf
  sequence := offers.bind offers.record offers.asSequence
  errors := offers.errors

/-! ## Calling a function -/

/-- The property holds of a script called with the record, an attribute and parameters, if it holds
of the actions of the script. Only a list of actions touches the session; the other scripts give
what they hold or compare a value that they read. -/
theorem onParams (offers : host.Offers holds) (name params : Value) (called : Script)
    (performs : ∀ actions answer, called = .inline actions answer →
      ∀ action ∈ actions, holds (host.perform action)) :
    holds (Script.onParams host name params called) := by
  cases called with
  | inline actions answer =>
    refine offers.bind ?_ fun _ => offers.pure answer
    exact offers.forM actions (performs actions answer rfl)
  | inlineEcho => exact offers.pure _
  | inlineMin bound =>
    exact offers.bind (offers.get name) fun value =>
      offers.ofOutcome (Script.faultsIn_complainBelow bound value)
  | _ => exact offers.throw _ trivial

/-- What is called with the record, an attribute and parameters is a script or a kind of checks. Of
a script only the actions are asked about, because the rest holds of any. -/
theorem callOnParams (offers : host.Offers holds) (function name params : Value)
    (performs : ∀ actions answer, function = .script (.inline actions answer) →
      ∀ action ∈ actions, holds (host.perform action)) :
    holds (function.callOnParams host name params) := by
  unfold Value.callOnParams
  split
  · exact offers.onParams name params _ fun actions answer isInline =>
      performs actions answer (congrArg Value.script isInline)
  · exact offers.toOffersAt.callKind _ _
  · exact offers.throw _ trivial

/-- What is bound to the record is a method of it or a function without one. A function without the
record looks at values alone. -/
theorem callBound (offers : host.Offers holds) (function name params : Value)
    (invokes : ∀ method, function = .method method → holds (host.invoke method name params)) :
    holds (function.callBound host name params) := by
  unfold Value.callBound
  split
  · exact invokes _ rfl
  · exact offers.ofOutcome (Value.faultsIn_callOnPair _ name params)

/-- The complaints of a function about an attribute, if the property holds of the actions of the
function and of the method it may be. Whether it is bound decides how it is called, and what it
gives is then read as complaints, which looks at values alone. -/
theorem inlineComplaints (offers : host.Offers holds) (function params bound name : Value)
    (performs : ∀ actions answer, function = .script (.inline actions answer) →
      ∀ action ∈ actions, holds (host.perform action))
    (invokes : ∀ method, function = .method method → holds (host.invoke method name params)) :
    holds (RecordValidation.inlineComplaints host function params bound name) := by
  unfold RecordValidation.inlineComplaints
  split
  · exact offers.bind (offers.callBound function name params invokes) fun result =>
      offers.ofOutcome result.faultsIn_complaints
  · exact offers.bind (offers.callOnParams function name params performs) fun result =>
      offers.ofOutcome result.faultsIn_complaints

/-! ## Validators -/

/-- What a validator says about an attribute, if the property holds of what the validator writes and
of the function it calls for complaints. -/
theorem verdict (offers : host.Offers holds) (validator : Validator) (name : Value)
    (writes : validator.transforms = true → ∀ value, holds (host.set name value))
    (calls : ∀ method params bound, validator.check = .inline method params bound →
      holds (RecordValidation.inlineComplaints host method params bound name)) :
    holds (validator.verdict host name) :=
  offers.toOffersAt.verdict (validator.asksWithin_true name) writes calls

/-- The property holds of checking an attribute, if it holds of looking at the errors and of adding
messages as well. The three reasons for leaving the attribute out are asked about in turn; after
that comes the verdict, and then its messages one by one. -/
theorem checkAttribute (offers : host.Offers holds) (validator : Validator) (name : Value)
    (errors : holds (Act.errors : Act ρ ErrorBag))
    (adds : ∀ message, holds (Act.addError name message : Act ρ Unit))
    (writes : validator.transforms = true → ∀ value, holds (host.set name value))
    (calls : ∀ method params bound, validator.check = .inline method params bound →
      holds (RecordValidation.inlineComplaints host method params bound name)) :
    holds (validator.checkAttribute host name) := by
  have asks := validator.asksWithin_true name
  refine offers.bind (offers.bind errors fun _ => offers.pure _) fun failing => ?_
  split
  · exact offers.pure ()
  refine offers.bind (offers.toOffersAt.skipsEmpty asks) fun empty => ?_
  split
  · exact offers.pure ()
  refine offers.bind (offers.toOffersAt.skipsGuarded asks) fun guarded => ?_
  split
  · exact offers.pure ()
  refine offers.bind (offers.verdict validator name writes calls) fun messages => ?_
  rw [Act.forIn_eq_forM]
  exact offers.forM messages fun message _ => adds message

end Host.Offers

/-- Whatever a record is asked for, the session stays as it is. It is only looked at, and looking
leaves every session as it was. -/
theorem Host.keepsOffers {γ : Type} (host : Host ρ) (view : Session ρ → γ) :
    host.Offers fun _ work => Act.Keeps view work where
  toCompositional := Act.compositional_keeps view
  record := Act.keeps_record
  read _ _ := Act.keeps_ofOutcome _
  label _ _ _ _ := Act.keeps_ofOutcome _
  asSequence _ := Act.keeps_ofOutcome _
  errors _ := Act.keeps_errors

/-- Writing an attribute keeps what a view shows that does not show the record. The record is read,
asked to write and replaced; of these only the last changes the session, and in the one place where
the view is blind. -/
theorem Host.keeps_set {γ : Type} (host : Host ρ) {view : Session ρ → γ}
    (blind : ∀ session record, view { session with record } = view session) (name value : Value) :
    Act.Keeps view (host.set name value) := by
  have closed := Act.compositional_keeps view
  refine closed.bind Act.keeps_record fun record => ?_
  exact closed.bind (Act.keeps_ofOutcome _) fun changed =>
    Act.keeps_modify fun session => blind session changed

/-- The function that a validator calls for complaints, if there is one, leaves what a view shows of
the session as it was. -/
def ValidatorOf.CallsKeep {γ : Type} (host : Host ρ) (view : Session ρ → γ)
    (validator : Validator) : Prop :=
  ∀ method params bound, validator.check = .inline method params bound →
    ∀ name, Act.Keeps view (inlineComplaints host method params bound name)

/-- A validator says nothing exactly if there is no complaint to word. A complaint is worded as a
single message or stops the wording, and neither is an empty list. -/
theorem ValidatorOf.outcome_word_eq_nil_iff {host : Host ρ} {name : Value} {session : Session ρ}
    {complaint : Option Complaint} :
    (word host name complaint).outcome session = .ok [] ↔ complaint = none := by
  cases complaint with
  | none => exact ⟨fun _ => rfl, fun _ => rfl⟩
  | some complaint =>
    rw [word, map_eq_pure_bind, Act.outcome_bind_eq_ok_iff]
    constructor
    · rintro ⟨message, -, single⟩
      cases single
    · intro absent
      cases absent

end RecordValidation
