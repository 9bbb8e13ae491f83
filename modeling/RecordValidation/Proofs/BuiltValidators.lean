import RecordValidation.Proofs.Effects

/-!
# Validators that are built

A validator that is built has its parts from its attributes and its arguments, each under a name of
its own (`ValidatorOf.BuiltFrom`). The arguments fit the kind and are taken as they are
(`Arguments.eq_of_fitting`); the check is of the kind (`Arguments.kind_of_check`) and is made of the
kind's own parameters alone (`Arguments.check_congr`).
-/

namespace RecordValidation

open Outcome

namespace Arguments

/-- Nothing is found under a name that no argument has. -/
theorem lookup_eq_none {arguments : Arguments} {name : String}
    (others : ∀ argument ∈ arguments, argument.1 ≠ name) : arguments.lookup name = none := by
  rw [List.lookup_eq_none_iff]
  intro argument given
  rw [bne_iff_ne]
  exact (others argument given).symm

/-- Arguments that fit a kind are taken as they are. -/
theorem eq_of_fitting {kind : CheckKind} {given arguments : Arguments}
    (fits : given.fitting kind = .ok arguments) : arguments = given := by
  unfold fitting at fits
  split at fits
  · cases fits
  · exact (Except.ok.inj fits).symm

/-- Settings for a kind make a check of that kind. Kinds that read their settings first may refuse
them, and their checks are looked at only where they do not. -/
theorem kind_of_check {arguments : Arguments} {kind : CheckKind} {made : Check}
    (set : arguments.check kind = .ok made) : made.kind = kind := by
  cases kind with
  | string =>
    obtain ⟨lengths, -, whole⟩ := bind_eq_ok_iff.1 set
    obtain rfl := Except.ok.inj whole
    rfl
  | compare =>
    obtain ⟨relation, -, others⟩ := bind_eq_ok_iff.1 set
    obtain ⟨comparedAs, -, whole⟩ := bind_eq_ok_iff.1 others
    obtain rfl := Except.ok.inj whole
    rfl
  | range =>
    simp only [check, rangeCheck] at set
    split at set
    · cases set
    · obtain ⟨members, -, whole⟩ := bind_eq_ok_iff.1 set
      obtain rfl := Except.ok.inj whole
      rfl
  | pattern =>
    simp only [check, formatCheck] at set
    split at set
    · cases set
    · obtain ⟨pattern, -, whole⟩ := bind_eq_ok_iff.1 set
      obtain rfl := Except.ok.inj whole
      rfl
    · obtain rfl := Except.ok.inj set
      rfl
  | filter =>
    simp only [check, filterCheck] at set
    split at set
    · obtain rfl := Except.ok.inj set
      rfl
    · cases set
  | abstract => cases set
  | required | safe | number | integer | boolean | default | inline | alwaysFails =>
    obtain rfl := Except.ok.inj set
    rfl

/-- An argument that is not given has the value that stands for its absence. -/
theorem valueOf_of_not_given {arguments : Arguments} {name : String}
    (others : ∀ argument ∈ arguments, argument.1 ≠ name) (absent : Value) :
    arguments.valueOf name absent = absent := by
  rw [valueOf, lookup_eq_none others, Option.getD_none]

/-- What is given first under a name is the value of the argument. -/
theorem valueOf_append {given : Arguments} {name : String} {value : Value}
    (present : given.lookup name = some value) (others : Arguments) (absent : Value) :
    (given ++ others).valueOf name absent = value := by
  rw [valueOf, List.lookup_append, present]
  rfl

/-- A check is made of the kind's own parameters alone. Each kind reads its settings by `valueOf`
under the names of its own parameters, which are listed, so the cases need no more than the premise
at those names. -/
theorem check_congr {arguments others : Arguments} {kind : CheckKind}
    (same : ∀ name ∈ kind.ownParameters, ∀ absent,
      arguments.valueOf name absent = others.valueOf name absent) :
    arguments.check kind = others.check kind := by
  cases kind <;>
    simp only [CheckKind.ownParameters, List.forall_mem_cons] at same <;>
    simp only [check, lengthCheck, lengths, numberSettings, comparisonCheck, rangeCheck,
      formatCheck, filterCheck, same]

end Arguments

/-- The parts of a validator that is built from a kind, attributes and arguments. -/
structure ValidatorOf.BuiltFrom (kind : CheckKind) (attributes : Value) (arguments : Arguments)
    (validator : Validator) : Prop where
  attributes : attributes.givenNames = .ok validator.attributes
  on : (arguments.valueOf "on" .null).givenNames = .ok validator.on
  except : (arguments.valueOf "except_" .null).givenNames = .ok validator.except
  check : arguments.check kind = .ok validator.check
  message : validator.message = arguments.valueOf "message" .null
  skipOnError : validator.skipOnError =
    arguments.valueOf "skip_on_error" (.bool kind.skipsOnError)
  skipOnEmpty : validator.skipOnEmpty = arguments.skipOnEmpty kind
  guard : validator.guard = arguments.valueOf "when" .null
  emptiness : validator.emptiness = arguments.valueOf "is_empty" .null

/-- A validator that is built has its parts from what it is built from. Each part is read by a step
that may refuse it, and the validator is there only if none did. -/
theorem construct_eq_ok {kind : CheckKind} {attributes : Value} {given : Arguments}
    {validator : Validator} (built : construct kind attributes given = .ok validator) :
    ValidatorOf.BuiltFrom kind attributes given validator := by
  obtain ⟨arguments, fits, others⟩ := bind_eq_ok_iff.1 built
  obtain rfl := Arguments.eq_of_fitting fits
  obtain ⟨names, named, others⟩ := bind_eq_ok_iff.1 others
  obtain ⟨on, onNamed, others⟩ := bind_eq_ok_iff.1 others
  obtain ⟨except, exceptNamed, others⟩ := bind_eq_ok_iff.1 others
  obtain ⟨check, made, whole⟩ := bind_eq_ok_iff.1 others
  obtain rfl := Except.ok.inj whole
  exact ⟨named, onNamed, exceptNamed, made, rfl, rfl, rfl, rfl, rfl⟩

end RecordValidation
