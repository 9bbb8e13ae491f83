import RecordValidation.Proofs.Answers
import RecordValidation.Proofs.Resolution

/-!
# Lists under a check for membership

A check for membership asks whether a value is found among the members of a set. Of a list or tuple,
where these are allowed, it asks whether all items are. Inverted, the check accepts exactly what it
refuses otherwise (`ValidatorOf.accepts_iff_of_range`). So a set that is forbidden lets a list pass
once one of its items is no member, and the list without items does not pass:
`forbidden_items_exact`. That is not the same as forbidding each of the items, as
`mixed_items_accepted` shows.
-/

namespace RecordValidation

namespace Value

/-- A value agrees with one of the members of a set. -/
def IsIn (members : List Value) (strict : Bool) (value : Value) : Prop :=
  ∃ member ∈ members, value.agrees strict member = true

/-- A value has items, as a list or as a tuple. -/
def HasItems (items : List Value) (value : Value) : Prop :=
  value = .list items ∨ value = .tuple items

/-- A value is among the members of a set exactly if it is in it. -/
theorem isAmong_iff {members : List Value} {strict : Bool} {value : Value} :
    isAmong members strict value = true ↔ value.IsIn members strict :=
  List.any_eq_true

/-- Where lists are allowed, a value with items is found exactly if each item is in the set. -/
theorem HasItems.isFound_iff {items members : List Value} {strict : Bool} {value : Value}
    (holds : value.HasItems items) :
    isFound members strict true value = true ↔ ∀ item ∈ items, item.IsIn members strict := by
  have found : isFound members strict true value = items.all (isAmong members strict) := by
    rcases holds with rfl | rfl
    · rfl
    · rfl
  rw [found, List.all_eq_true]
  exact forall₂_congr fun item _ => isAmong_iff

end Value

/-- That some item of a list lacks a property and that all items lack it come to the same exactly if
there are items and they all have the property or all lack it. The two sides differ for no items, of
which all lack it and none does, and for items of both kinds. -/
theorem exists_not_iff_forall_not_iff {α : Type} {property : α → Prop} (items : List α) :
    ((∃ item ∈ items, ¬property item) ↔ ∀ item ∈ items, ¬property item) ↔
      items ≠ [] ∧ ((∀ item ∈ items, property item) ∨ ∀ item ∈ items, ¬property item) := by
  constructor
  · intro same
    constructor
    · rintro rfl
      simp at same
    · by_cases lacking : ∃ item ∈ items, ¬property item
      · exact .inr (same.1 lacking)
      · exact .inl fun item listed =>
          Classical.byContradiction fun lacks => lacking ⟨item, listed, lacks⟩
  · rintro ⟨given, each⟩
    obtain ⟨first, present⟩ := List.exists_mem_of_ne_nil items given
    rcases each with all | none
    · exact iff_of_false (fun ⟨item, listed, lacks⟩ => lacks (all item listed))
        fun none => none first present (all first present)
    · exact iff_of_true ⟨first, present, none first present⟩ none

/-- There is no complaint about what is found or not exactly if that is not what the check is
inverted to. -/
theorem complaintUnless_eq_none_iff (found inverted : Bool) (message : Value) :
    complaintUnless found (.bool inverted) message = none ↔ found ≠ inverted := by
  have equal : (Value.bool found).equals (.bool inverted) = (found == inverted) := by
    cases found <;> cases inverted <;> decide
  rw [complaintUnless, equal]
  by_cases same : found = inverted <;> simp [same]

namespace ValidatorOf

variable {ρ : Type} {host : Host ρ} {name value label : Value} {session : Session ρ}
  {validator : Validator} {members : List Value} {strict allowList : Value} {inverted : Bool}
  (checks : validator.check = .range members strict (.bool inverted) allowList)
  (read : host.read session.record name = .ok value)

include checks read

/-- A check for membership words its complaint about the value. -/
theorem outcome_verdict_of_range :
    (validator.verdict host name).outcome session = (word host name
      (membershipComplaint? members strict (.bool inverted) allowList validator.message
        value)).outcome session := by
  have judges : validator.judgesValue = true := by rw [judgesValue, checks]
  have complains : validator.valueComplaint? value = .ok (membershipComplaint? members strict
      (.bool inverted) allowList validator.message value) := by
    simp only [valueComplaint?, checks]
  rw [outcome_verdict_of_judgesValue judges read, complains]
  rfl

/-- A check for membership accepts what is found, and what is not found if it is inverted. To accept
is to have no complaint, since every complaint is worded. -/
theorem accepts_iff_of_range : (validator.verdict host name).outcome session = .ok [] ↔
    isFound members strict.truthy allowList.truthy value ≠ inverted := by
  rw [outcome_verdict_of_range checks read, outcome_word_eq_nil_iff]
  exact complaintUnless_eq_none_iff ..

/-- A check for membership answers. -/
theorem isAnswer_of_range (labelled : (host.labelOf name).outcome session = .ok label)
    (wording : validator.message.IsWording) :
    IsAnswer ((validator.verdict host name).outcome session) := by
  rw [outcome_verdict_of_range checks read]
  refine isAnswer_word labelled fun given isGiven => ?_
  rw [membershipComplaint?, complaintUnless] at isGiven
  split at isGiven
  · cases isGiven
    exact wording.orDefault _
  · cases isGiven

end ValidatorOf

/-- What a forbidden set forbids where lists are allowed.

Take a validator that checks for membership, inverted and with lists allowed, and a list or tuple.
It says nothing exactly if some item is not in the set, loosely or strictly as it compares, and else
it has one message. That is what an inverted check is: it accepts exactly what the check that is not
inverted refuses, which asks for all items to be in the set. It comes to the same as that no item is
in the set exactly if there are items, and they are all in the set or none of them is.

Proof: a list is found if each of its items is among the members, and the check that is inverted
accepts what is not found. -/
theorem forbidden_items_exact {ρ : Type} {host : Host ρ} {validator : Validator}
    {members items : List Value} {strict allowList name value label : Value} {session : Session ρ}
    (forbids : validator.check = .range members strict (.bool true) allowList)
    (listsAllowed : allowList.truthy = true) (wording : validator.message.IsWording)
    (holds : value.HasItems items) (read : host.read session.record name = .ok value)
    (labelled : (host.labelOf name).outcome session = .ok label) :
    let answer := (validator.verdict host name).outcome session
    (answer = .ok [] ↔ ∃ item ∈ items, ¬item.IsIn members strict.truthy) ∧
    (¬answer = .ok [] → ValidatorOf.IsMessage answer) ∧
    (∀ upright : Validator, upright.check = .range members strict (.bool false) allowList →
      ((upright.verdict host name).outcome session = .ok [] ↔ ¬answer = .ok [])) ∧
    ((answer = .ok [] ↔ ∀ item ∈ items, ¬item.IsIn members strict.truthy) ↔
      items ≠ [] ∧ ((∀ item ∈ items, item.IsIn members strict.truthy) ∨
        ∀ item ∈ items, ¬item.IsIn members strict.truthy)) := by
  intro answer
  have found : isFound members strict.truthy true value = true ↔
    ∀ item ∈ items, item.IsIn members strict.truthy := holds.isFound_iff
  have accepted : answer = .ok [] ↔ ∃ item ∈ items, ¬item.IsIn members strict.truthy := by
    rw [ValidatorOf.accepts_iff_of_range forbids read, listsAllowed, Ne, found]
    simp only [Classical.not_forall, exists_prop]
  refine ⟨accepted, fun refused => ?_, fun upright allows => ?_, ?_⟩
  · exact (ValidatorOf.isAnswer_of_range forbids read labelled wording).resolve_left refused
  · rw [ValidatorOf.accepts_iff_of_range allows read, ValidatorOf.accepts_iff_of_range forbids read]
    simp
  · rw [accepted]
    exact exists_not_iff_forall_not_iff items

/-- The check that forbids the members of a set and allows lists. -/
def Validator.forbidding (members : List Value) : Validator :=
  { Validator.marking ["v"] [] [] with
    check := .range members (.bool false) (.bool true) (.bool true) }

open PlainRecord in
/-- A list of two items, neither of which is forbidden, is accepted. -/
theorem forbidden_items_exact_free :
    construct .range (.list ["v"])
        [("range", .list ["x"]), ("not_", .bool true), ("allow_array", .bool true)] =
      .ok (.forbidding ["x"]) ∧
    ((Validator.forbidding ["x"]).verdict (ofValue (.list ["y", "z"])).host "v").outcome
      (valueSession (.list ["y", "z"])) = .ok [] := by
  have free : ¬(Value.text "y").IsIn ["x"] false := by
    rw [← Value.isAmong_iff]
    decide
  have read : (ofValue (.list ["y", "z"])).host.read (valueSession (.list ["y", "z"])).record "v" =
    .ok (.list ["y", "z"]) := rfl
  have wording : (Validator.forbidding ["x"]).message.IsWording := fun given =>
    absurd given (by decide)
  refine ⟨rfl, ?_⟩
  exact (forbidden_items_exact rfl rfl wording (.inl rfl) read rfl).1.2
    ⟨"y", List.mem_cons_self, free⟩

open PlainRecord in
/-- A list of a forbidden item and another one is accepted, and the list without items, which has no
forbidden one, is not. -/
theorem mixed_items_accepted :
    let verdict (items : List Value) :=
      ((Validator.forbidding ["a"]).verdict (ofValue (.list items)).host "v").outcome
        (valueSession (.list items))
    construct .range (.list ["v"])
        [("range", .list ["a"]), ("not_", .bool true), ("allow_array", .bool true)] =
      .ok (.forbidding ["a"]) ∧
    verdict ["a", "z"] = .ok [] ∧ (∃ item ∈ [Value.text "a", "z"], item.IsIn ["a"] false) ∧
      (verdict []).toOption.map (List.map Value.toText) = some ["v is invalid."] := by
  intro verdict
  have forbidden : (Value.text "a").IsIn ["a"] false := by
    rw [← Value.isAmong_iff]
    decide
  exact ⟨rfl, rfl, ⟨"a", List.mem_cons_self, forbidden⟩, by decide +kernel⟩

end RecordValidation
