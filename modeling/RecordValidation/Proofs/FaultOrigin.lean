import RecordValidation.Pass
import RecordValidation.Proofs.Runs

/-!
# Which faults stop a validator

A validator that runs can stop with a fault of its own making: a declaration that is malformed, a
value that does not offer what is asked of it, a script that raises. Any other fault comes from the
record. `Outcome.FaultsIn` and `Act.FaultsIn` say that nothing but allowed faults stops a piece of
work, `Host.FaultsIn` says so of all that a record offers, and `ValidatorOf.faultsIn_runOn` draws
the conclusion for validators.

Building a validator stops with less (`Fault.OfSettings`): a kind of check that refuses its settings
does not know in which rule they were declared, so its faults name none.

Each function that a validator calls has its own lemma, named for it and proved from those of the
functions it calls in turn.
-/

namespace RecordValidation

/-- The faults that come from looking at values and declarations and from calling scripts. -/
def Fault.IsLocal : Fault → Prop
  | declaration .. | raised _ | misuse _ | notOffered | badValue | overflow => True
  | _ => False

/-- The problems of a kind of check with its own settings. -/
def DeclarationProblem.isOfSettings : DeclarationProblem → Bool
  | badLength | unknownRelation _ | unknownComparison _ | missingRange | missingPattern
  | malformedPattern _ _ | missingFilter => true
  | _ => false

/-- The faults that come from looking at the settings of a check: a value that does not offer what
is asked of it, or a problem of the kind with its settings, which names no rule. -/
def Fault.OfSettings : Fault → Prop
  | declaration problem rule => problem.isOfSettings = true ∧ rule = .null
  | misuse _ | notOffered | badValue | overflow => True
  | _ => False

/-- Looking at settings is looking at values and declarations. The allowed kinds of faults are among
the local ones; a declaration problem is local whatever it names. -/
theorem Fault.OfSettings.isLocal {fault : Fault} (held : fault.OfSettings) : fault.IsLocal := by
  cases fault with
  | declaration | misuse | notOffered | badValue | overflow => trivial
  | unknownScenario | unknownAttribute | malformedField | raised | missingTables | tooDeep =>
    exact held.elim

namespace Outcome

variable {α β : Type} {allowed : Fault → Prop}

/-- A result is a fault only if the fault is allowed. -/
def FaultsIn (allowed : Fault → Prop) (outcome : Outcome α) : Prop :=
  ∀ fault, outcome = .error fault → allowed fault

/-- A result that is there is no fault. -/
theorem faultsIn_ok (value : α) : FaultsIn allowed (.ok value) := by
  intro fault stopped
  cases stopped

/-- An allowed fault is allowed. -/
theorem faultsIn_error {fault : Fault} (held : allowed fault) :
    FaultsIn allowed (.error fault : Outcome α) := by
  intro other stopped
  cases stopped
  exact held

/-- What is stopped by few faults is stopped by no others. -/
theorem FaultsIn.mono {fewer : Fault → Prop} {outcome : Outcome α} (held : FaultsIn fewer outcome)
    (weaker : ∀ fault, fewer fault → allowed fault) : FaultsIn allowed outcome :=
  fun fault stopped => weaker fault (held fault stopped)

/-- What looking at settings stops with is local. -/
theorem FaultsIn.isLocal {outcome : Outcome α} (held : FaultsIn Fault.OfSettings outcome) :
    FaultsIn Fault.IsLocal outcome :=
  held.mono fun _ => Fault.OfSettings.isLocal

/-- Two steps are stopped by what stops either. The second is asked about all values, because which
one it gets does not matter for what may stop it. -/
theorem FaultsIn.bind {first : Outcome α} {next : α → Outcome β} (before : FaultsIn allowed first)
    (after : ∀ value, FaultsIn allowed (next value)) : FaultsIn allowed (first >>= next) := by
  cases first with
  | ok value => exact after value
  | error fault => exact faultsIn_error (before fault rfl)

/-- Changing the result of something brings no fault. -/
theorem FaultsIn.map {outcome : Outcome α} (change : α → β) (held : FaultsIn allowed outcome) :
    FaultsIn allowed (change <$> outcome) := by
  cases outcome with
  | ok value => exact faultsIn_ok (change value)
  | error fault => exact faultsIn_error (held fault rfl)

/-- Steps for each item of a list are stopped by what stops one of them. By induction on the list:
the first step and the rest of them are two steps, and the results are put together without a
fault. -/
theorem faultsIn_mapM {step : α → Outcome β} (items : List α)
    (held : ∀ item, FaultsIn allowed (step item)) : FaultsIn allowed (items.mapM step) := by
  induction items with
  | nil => exact faultsIn_ok []
  | cons item rest inductionHypothesis =>
    rw [List.mapM_cons]
    exact (held item).bind fun first => inductionHypothesis.bind fun others => faultsIn_ok _

end Outcome

open Outcome

/-! ## Names and attributes -/

namespace Value

/-- Only a value that cannot be looked up is no name. The fault is a misuse, which names the type of
the value and no rule. -/
theorem faultsIn_asName (value : Value) : FaultsIn Fault.OfSettings value.asName := by
  unfold asName
  split
  · exact faultsIn_ok _
  · exact faultsIn_error trivial

/-- Only values that cannot be looked up are no names. -/
theorem faultsIn_asNames (values : List Value) : FaultsIn Fault.OfSettings (asNames values) :=
  faultsIn_mapM values faultsIn_asName

/-- Only a value that cannot be gone through has no items. -/
theorem faultsIn_items (value : Value) : FaultsIn Fault.OfSettings value.items := by
  unfold items
  split
  · exact faultsIn_ok _
  · exact faultsIn_error trivial

/-- Only a value that cannot be gone through gives no names. No value stands for no names and a text
for one; only what is left is gone through. -/
theorem faultsIn_givenNames (value : Value) : FaultsIn Fault.OfSettings value.givenNames := by
  unfold givenNames
  split
  · exact faultsIn_ok _
  · exact faultsIn_ok _
  · exact faultsIn_items _

end Value

/-- Only descriptors that are no texts have no names. Each is read on its own, and taking the mark
off a text cannot fail. -/
theorem Descriptor.faultsIn_names (descriptors : List Value) :
    FaultsIn Fault.IsLocal (Descriptor.names descriptors) := by
  apply faultsIn_mapM
  intro descriptor
  apply FaultsIn.map
  unfold Descriptor.ofValue
  split
  · exact faultsIn_ok _
  · exact faultsIn_error trivial

namespace ValidatorOf

/-- What a validator covers is stopped by descriptors and requests that are no names. Its own names
are told first, so the descriptors are what stops it if both would. -/
theorem faultsIn_covered (validator : Validator) (requested : Option (List Value)) :
    FaultsIn Fault.IsLocal (validator.covered requested) := by
  refine (Descriptor.faultsIn_names validator.attributes).bind fun own => ?_
  cases requested with
  | none => exact faultsIn_ok own
  | some names => exact (Value.faultsIn_asNames names).isLocal.bind fun names => faultsIn_ok _

/-- What a validator covers is stopped by requests that cannot be gone through as well. The names of
the validator are told before the request is looked at, and once more when they are compared with
it. -/
theorem faultsIn_coveredBy (validator : Validator) (requested : Value) :
    FaultsIn Fault.IsLocal (validator.coveredBy requested) := by
  refine (Descriptor.faultsIn_names validator.attributes).bind fun _ => ?_
  split
  · exact validator.faultsIn_covered none
  · exact (Value.faultsIn_items _).isLocal.bind fun items =>
      validator.faultsIn_covered (some items)

end ValidatorOf

/-! ## Building a validator -/

namespace Arguments

/-- Only arguments that do not fit their kind are refused. An argument that is unknown or given
twice is a misuse of the kind. -/
theorem faultsIn_fitting (kind : CheckKind) (arguments : Arguments) :
    FaultsIn Fault.OfSettings (arguments.fitting kind) := by
  unfold fitting
  split
  · exact faultsIn_error trivial
  · exact faultsIn_ok _

/-- Only a pair of lengths of the wrong size is refused. Lengths are given as a pair or one by one,
and of a pair only the number of its members can be wrong. -/
theorem faultsIn_lengthCheck (arguments : Arguments) :
    FaultsIn Fault.OfSettings arguments.lengthCheck := by
  have lengths : FaultsIn Fault.OfSettings arguments.lengths := by
    unfold Arguments.lengths
    split
    · exact faultsIn_ok _
    · exact faultsIn_ok _
    · exact faultsIn_error ⟨rfl, rfl⟩
    · exact faultsIn_error ⟨rfl, rfl⟩
    · exact faultsIn_ok _
  exact lengths.bind fun _ => faultsIn_ok _

/-- Only a relation or a way to compare that nobody knows is refused. A relation is looked up by its
name, so that one that cannot be a name is refused before it is unknown. -/
theorem faultsIn_comparisonCheck (arguments : Arguments) :
    FaultsIn Fault.OfSettings arguments.comparisonCheck := by
  have relation : ∀ given, FaultsIn Fault.OfSettings (relationOf given) := by
    intro given
    refine (Value.faultsIn_asName given).bind fun name => ?_
    split
    · exact faultsIn_ok _
    · exact faultsIn_error ⟨rfl, rfl⟩
  have comparedAs : ∀ given, FaultsIn Fault.OfSettings (comparedAsOf given) := by
    intro given
    unfold comparedAsOf
    split
    · exact faultsIn_ok _
    split
    · exact faultsIn_ok _
    · exact faultsIn_error ⟨rfl, rfl⟩
  exact (relation _).bind fun _ => (comparedAs _).bind fun _ => faultsIn_ok _

/-- Only a set that is missing or cannot be gone through is refused. A missing set is a problem of
the settings, which names no rule; one that cannot be gone through is a misuse. -/
theorem faultsIn_rangeCheck (arguments : Arguments) :
    FaultsIn Fault.OfSettings arguments.rangeCheck := by
  unfold rangeCheck
  split
  · exact faultsIn_error ⟨rfl, rfl⟩
  · exact (Value.faultsIn_items _).bind fun _ => faultsIn_ok _

/-- Only a text that is no pattern is refused. A malformed one is a problem of the settings; a count
that is too large and kinds that contradict each other stop the reading. -/
theorem faultsIn_patternOf (source : String) : FaultsIn Fault.OfSettings (patternOf source) := by
  unfold patternOf
  split
  · exact faultsIn_ok _
  · exact faultsIn_error ⟨rfl, rfl⟩
  · exact faultsIn_error trivial
  · exact faultsIn_error trivial

/-- Only a pattern that is missing or malformed is refused. Anything but a text is kept as it is
given and stops the check when it is used, not when it is built. -/
theorem faultsIn_formatCheck (arguments : Arguments) :
    FaultsIn Fault.OfSettings arguments.formatCheck := by
  unfold formatCheck
  split
  · exact FaultsIn.bind (faultsIn_error ⟨rfl, rfl⟩) fun _ => faultsIn_ok _
  · exact (faultsIn_patternOf _).bind fun _ => faultsIn_ok _
  · exact faultsIn_ok _

/-- Only a filter that is missing is refused. A filter that is there is not looked at before it is
called. -/
theorem faultsIn_filterCheck (arguments : Arguments) :
    FaultsIn Fault.OfSettings arguments.filterCheck := by
  simp only [filterCheck]
  split
  · exact faultsIn_ok _
  · exact faultsIn_error ⟨rfl, rfl⟩

/-- Only settings that do not fit the kind of check are refused. Of the kinds, five look at their
settings and the abstract one cannot be built; the rest take what they are given. -/
theorem faultsIn_check (arguments : Arguments) (kind : CheckKind) :
    FaultsIn Fault.OfSettings (arguments.check kind) := by
  cases kind with
  | string => exact arguments.faultsIn_lengthCheck
  | compare => exact arguments.faultsIn_comparisonCheck
  | range => exact arguments.faultsIn_rangeCheck
  | pattern => exact arguments.faultsIn_formatCheck
  | filter => exact arguments.faultsIn_filterCheck
  | abstract => exact faultsIn_error trivial
  | _ => exact faultsIn_ok _

end Arguments

/-- Only attributes, scenarios and settings that do not fit are refused. The order of the steps
decides which fault is met first and not which faults there are. -/
theorem faultsIn_construct (kind : CheckKind) (attributes : Value) (given : Arguments) :
    FaultsIn Fault.OfSettings (construct kind attributes given) := by
  refine (given.faultsIn_fitting kind).bind fun arguments => ?_
  refine attributes.faultsIn_givenNames.bind fun _ => ?_
  refine (Value.faultsIn_givenNames _).bind fun _ => ?_
  refine (Value.faultsIn_givenNames _).bind fun _ => ?_
  exact (arguments.faultsIn_check kind).bind fun _ => faultsIn_ok _

/-- Arguments given by place may be too many as well. -/
theorem faultsIn_constructByPlace (kind : CheckKind) (attributes : Value) (given : List Value) :
    FaultsIn Fault.IsLocal (constructByPlace kind attributes given) := by
  unfold constructByPlace
  split
  · exact faultsIn_error trivial
  · exact (faultsIn_construct kind attributes _).isLocal

/-! ## Calling a function with values -/

namespace Script

/-- Only what is no text cannot be mapped. Of all values only a text is mapped, and the others lack
what is asked of them. -/
theorem faultsIn_onText (map : String → String) (value : Value) :
    FaultsIn Fault.IsLocal (onText map value) := by
  unfold onText
  split
  · exact faultsIn_ok _
  · exact faultsIn_error trivial

/-- A script called with a value stops with an exception of its own or for want of something. Each
script is looked at in turn: most give something of any value, those that map texts need one, and
the length needs something that has a length. -/
theorem faultsIn_onValue (value : Value) (called : Script) :
    FaultsIn Fault.IsLocal (onValue value called) := by
  cases called with
  | emptyConst | const | emptyIn | text | wrap => exact faultsIn_ok _
  | strip | upper | lower => exact faultsIn_onText _ value
  | length =>
    simp only [onValue]
    split
    · exact faultsIn_ok _
    · exact faultsIn_error trivial
  | _ => exact faultsIn_error trivial

/-- Only integers and bounds that are no quantities cannot be compared. Values that are neither
integers nor truth values are passed over before anything is compared. -/
theorem faultsIn_complainBelow (bound value : Value) :
    FaultsIn Fault.IsLocal (complainBelow bound value) := by
  unfold complainBelow
  split
  · split
    · exact faultsIn_ok _
    · exact faultsIn_error trivial
  · split
    · exact faultsIn_ok _
    · exact faultsIn_error trivial
  · exact faultsIn_ok _

/-- A script called without a record stops with an exception of its own or for want of something.
Those that would ask the record have none to ask. -/
theorem faultsIn_onPair (params : Value) (called : Script) :
    FaultsIn Fault.IsLocal (onPair params called) := by
  cases called with
  | guardConst | guardAttribute => exact faultsIn_ok _
  | defaultAttribute => exact faultsIn_onText _ params
  | _ => exact faultsIn_error trivial

end Script

namespace Value

/-- What is called with a value is a script or a kind of checks. Called with a value, a kind takes
it for the attributes and builds a validator; anything else cannot be called. -/
theorem faultsIn_callOn (function value : Value) :
    FaultsIn Fault.IsLocal (function.callOn value) := by
  unfold callOn
  split
  · exact Script.faultsIn_onValue value _
  · exact (faultsIn_constructByPlace _ _ _).map validator
  · exact faultsIn_error trivial

/-- What is called with an attribute and parameters is a script or a kind of checks. Called with
both, a kind takes the one for its attributes and the other for the next argument. -/
theorem faultsIn_callOnPair (function name params : Value) :
    FaultsIn Fault.IsLocal (function.callOnPair name params) := by
  unfold callOnPair
  split
  · exact Script.faultsIn_onPair params _
  · exact (faultsIn_constructByPlace _ _ _).map validator
  · exact faultsIn_error trivial

end Value

/-- Whether a value is empty is stopped only by the function that decides it. Without such a
function emptiness is looked up and nothing can stop it. -/
theorem ValidatorOf.faultsIn_countsAsEmpty (validator : Validator) (value : Value) :
    FaultsIn Fault.IsLocal (validator.countsAsEmpty value) := by
  unfold countsAsEmpty
  split
  · exact faultsIn_ok _
  · exact (Value.faultsIn_callOn _ value).map Value.truthy

/-! ## The checks -/

/-- Only a bound that is no quantity cannot be compared with. -/
theorem Quantity.faultsIn_violates (fails : Quantity → Quantity → Bool) (quantity : Quantity)
    (bound : Value) : FaultsIn Fault.IsLocal (quantity.violates fails bound) := by
  unfold violates
  split
  · exact faultsIn_ok _
  · exact faultsIn_ok _
  · exact faultsIn_error trivial

/-- A complaint about a length is stopped only by bounds that are no quantities. The lower bound is
asked about first, the upper one only if the value is long enough, and the exact length last, which
is compared as a value and cannot fail. -/
theorem LengthSettings.faultsIn_complaint? (settings : LengthSettings) (message value : Value) :
    FaultsIn Fault.IsLocal (LengthSettings.complaint? settings message value) := by
  unfold LengthSettings.complaint?
  split
  · refine (Quantity.faultsIn_violates _ _ _).bind fun falls => ?_
    split
    · exact faultsIn_ok _
    refine (Quantity.faultsIn_violates _ _ _).bind fun exceeds => ?_
    split
    · exact faultsIn_ok _
    split
    · exact faultsIn_ok _
    · exact faultsIn_ok _
  · exact faultsIn_ok _

/-- A complaint about a number is stopped only by a text that cannot be converted and by bounds that
are no quantities. A text is converted only if the pattern for it accepts it, and the bounds are
asked about one after the other. -/
theorem NumberSettings.faultsIn_complaint? (settings : NumberSettings) (message value : Value) :
    FaultsIn Fault.IsLocal (NumberSettings.complaint? settings message value) := by
  have amount : FaultsIn Fault.IsLocal (NumberSettings.amount? settings value) := by
    unfold amount?
    split
    · exact faultsIn_ok _
    · exact faultsIn_ok _
    · split
      · apply FaultsIn.map
        unfold quantityOfText
        split
        · exact faultsIn_ok _
        · exact faultsIn_error trivial
      · exact faultsIn_ok _
    · exact faultsIn_ok _
  refine amount.bind fun amount => ?_
  cases amount with
  | none => exact faultsIn_ok _
  | some quantity =>
    refine (Quantity.faultsIn_violates _ quantity _).bind fun falls => ?_
    split
    · exact faultsIn_ok _
    refine (Quantity.faultsIn_violates _ quantity _).bind fun exceeds => ?_
    split
    · exact faultsIn_ok _
    · exact faultsIn_ok _

/-- Only an integer out of range cannot be made a number. A text that is no number has none, which
is not a fault. -/
theorem Value.faultsIn_asNumber (value : Value) : FaultsIn Fault.IsLocal value.asNumber := by
  cases value with
  | int value =>
    simp only [asNumber]
    split
    · exact faultsIn_ok _
    · exact faultsIn_error trivial
  | _ => exact faultsIn_ok _

/-- A complaint about a comparison is stopped only by integers out of range. The value is converted
before the target and decides if either stops; texts are compared without converting. -/
theorem Relation.faultsIn_complaint? (relation : Relation) (comparedAs : ComparedAs)
    (message value target shown : Value) :
    FaultsIn Fault.IsLocal (relation.complaint? comparedAs message value target shown) := by
  have relates : FaultsIn Fault.IsLocal (relation.relates comparedAs value target) := by
    cases comparedAs with
    | string => exact faultsIn_ok _
    | number =>
      refine value.faultsIn_asNumber.bind fun first => ?_
      cases first with
      | none => exact faultsIn_ok _
      | some a =>
        refine target.faultsIn_asNumber.bind fun second => ?_
        cases second with
        | none => exact faultsIn_ok _
        | some b => exact faultsIn_ok _
  refine relates.bind fun holds => ?_
  split
  · exact faultsIn_ok _
  · exact faultsIn_ok _

/-- A complaint about a missing value is stopped only by the function that decides what is empty.
With a wanted value the function is not asked, because the two are compared. -/
theorem faultsIn_presenceComplaint? (validator : Validator) (wanted strict message value : Value) :
    FaultsIn Fault.IsLocal
      (presenceComplaint? validator.countsAsEmpty wanted strict message value) := by
  unfold presenceComplaint?
  split
  · unfold absenceComplaint?
    split
    · exact faultsIn_ok _
    · exact ((validator.faultsIn_countsAsEmpty _).map Bool.not).bind fun _ => faultsIn_ok _
  · exact faultsIn_ok _

/-- Only what is no pattern cannot be searched for. -/
theorem faultsIn_formatComplaint? (pattern inverted message value : Value) :
    FaultsIn Fault.IsLocal (formatComplaint? pattern inverted message value) := by
  unfold formatComplaint?
  split
  · exact faultsIn_ok _
  · exact faultsIn_error trivial
  · exact faultsIn_ok _

/-- Only a template that is no text cannot be worded. What is put in for placeholders are texts of
values, which every value has. -/
theorem Complaint.faultsIn_render (label : Value) (complaint : Complaint) :
    FaultsIn Fault.IsLocal (complaint.render label) := by
  unfold render
  split
  · exact faultsIn_ok _
  · exact faultsIn_error trivial

/-- A check that only looks at the value is stopped only by settings that make no sense for it. Each
kind of check that looks at a value has its own lemma above, and for the other kinds there is no
complaint. -/
theorem ValidatorOf.faultsIn_valueComplaint? (validator : Validator) (value : Value) :
    FaultsIn Fault.IsLocal (validator.valueComplaint? value) := by
  unfold valueComplaint?
  split
  · exact faultsIn_presenceComplaint? validator _ _ _ _
  · exact LengthSettings.faultsIn_complaint? _ _ _
  · exact NumberSettings.faultsIn_complaint? _ _ _
  · exact NumberSettings.faultsIn_complaint? _ _ _
  · exact faultsIn_ok _
  · exact faultsIn_ok _
  · exact faultsIn_formatComplaint? _ _ _ _
  · exact faultsIn_ok _

/-- Only a result that cannot be gone through stands for no complaints. -/
theorem Value.faultsIn_complaints (result : Value) :
    FaultsIn Fault.IsLocal result.complaints := by
  unfold complaints
  split
  · exact faultsIn_ok _
  · exact faultsIn_ok _
  · exact (faultsIn_items _).isLocal

end RecordValidation
