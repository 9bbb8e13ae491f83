import Mathlib.Data.List.Nodup
import RecordValidation.Proofs.CheckCalls
import RecordValidation.Proofs.CompiledEntries
import RecordValidation.Proofs.RuleForms

/-!
# Attributes are checked once by a rule

A rule is read with its descriptors compared as they are written, and the mark of a descriptor is
only taken off when the rule's validator runs. So a rule lists an attribute once, unless it lists it
with the mark and without (`Rule.ListsBothWays`), and `check_called_once` says that the check of its
validator is called once at most for an attribute, except for that: an attribute that is listed both
ways is checked twice (`wrapped_twice`).
-/

namespace RecordValidation

open Outcome

/-! ## What a rule lists -/

namespace Descriptor

/-- What is marked is not what it marks. -/
theorem ne_marked (attributeName : String) : attributeName ≠ "!" ++ attributeName := by
  intro same
  have lengths := congrArg String.length same
  rw [String.length_append] at lengths
  have marked : "!".length = 1 := rfl
  omega

/-- The mark is taken off. -/
theorem name_marked (attributeName : String) : name ("!" ++ attributeName) = attributeName := by
  simp [name, String.toList_append, unsafeMark]

/-- A descriptor of an attribute is the attribute, which then does not read like a marked one, or
the attribute with the mark. Taking off the mark is taking off a first character, if it is the mark,
so it can come from these two and no others. -/
theorem name_eq_iff {descriptor attributeName : String} :
    name descriptor = attributeName ↔
      isUnsafe attributeName = false ∧ descriptor = attributeName ∨
        descriptor = "!" ++ attributeName := by
  constructor
  · rintro rfl
    cases unmarked : isUnsafe descriptor with
    | false =>
      rw [name_of_not_isUnsafe _ unmarked]
      exact .inl ⟨unmarked, rfl⟩
    | true =>
      refine .inr ?_
      cases characters : descriptor.toList with
      | nil => simp [isUnsafe, characters] at unmarked
      | cons first rest =>
        obtain rfl : first = unsafeMark := by simpa [isUnsafe, characters] using unmarked
        apply String.toList_injective
        simp [name, characters, unsafeMark]
  · rintro (⟨unmarked, rfl⟩ | rfl)
    · exact name_of_not_isUnsafe _ unmarked
    · exact name_marked attributeName

/-- An attribute is named as often as it is listed, with the mark and without; without the mark what
reads like a marked one names another attribute. The induction is on the descriptors; each is the
attribute with the mark, without it, or of another attribute. -/
theorem count_names (descriptors : List String) (attributeName : String) :
    (descriptors.map name).count attributeName =
      (if isUnsafe attributeName then 0 else descriptors.count attributeName) +
        descriptors.count ("!" ++ attributeName) := by
  induction descriptors with
  | nil => simp
  | cons descriptor rest inductionHypothesis =>
    rw [List.map_cons, List.count_cons, List.count_cons, List.count_cons, inductionHypothesis]
    simp only [beq_iff_eq]
    by_cases marked : descriptor = "!" ++ attributeName
    · have unlike : descriptor ≠ attributeName := fun same =>
        ne_marked attributeName (same.symm.trans marked)
      rw [if_pos (name_eq_iff.2 (.inr marked)), if_pos marked, if_neg unlike]
      simp only [Nat.add_zero, Nat.add_assoc]
    · rw [if_neg marked]
      cases unmarked : isUnsafe attributeName with
      | true =>
        have another : name descriptor ≠ attributeName := by
          simp [name_eq_iff, unmarked, marked]
        simp [another]
      | false =>
        have named : name descriptor = attributeName ↔ descriptor = attributeName := by
          simp [name_eq_iff, unmarked, marked]
        simp only [named, Bool.false_eq_true, ↓reduceIte]
        omega

/-- Descriptors that are unlike name an attribute once at most, or they name it twice, with the mark
and without. Either way of listing it occurs once at most, so it is named twice only if both
occur. -/
theorem count_names_le {descriptors : List String} (unlike : descriptors.Nodup)
    (attributeName : String) :
    (descriptors.map name).count attributeName ≤ 1 ∨
      (descriptors.map name).count attributeName = 2 ∧ isUnsafe attributeName = false ∧
        attributeName ∈ descriptors ∧ "!" ++ attributeName ∈ descriptors := by
  have once := List.nodup_iff_count_le_one.1 unlike
  have plain := once attributeName
  have marked := once ("!" ++ attributeName)
  rw [count_names]
  cases unmarked : isUnsafe attributeName with
  | true => exact .inl (by simpa using marked)
  | false =>
    rw [if_neg Bool.false_ne_true, and_iff_right rfl, ← List.count_pos_iff, ← List.count_pos_iff]
    omega

end Descriptor

namespace Rule

/-- The names of the attributes that a rule lists, each as often as it is listed. -/
def listedNames (rule : Rule) : List String :=
  match rule.attributes.items with
  | .ok descriptors => (Descriptor.texts descriptors).map Descriptor.name
  | .error _ => []

/-- A rule lists an attribute with the mark and without. -/
def ListsBothWays (rule : Rule) (attributeName : String) : Prop :=
  ∃ descriptors, rule.attributes.items = .ok descriptors ∧
    Descriptor.isUnsafe attributeName = false ∧
    .text attributeName ∈ descriptors ∧ .text ("!" ++ attributeName) ∈ descriptors

/-- A rule that is canonical lists an attribute once, unless it does so with the mark and
without. -/
theorem IsCanonical.count_listedNames_le {rule : Rule} (canonical : rule.IsCanonical)
    (attributeName : String) :
    rule.listedNames.count attributeName ≤ 1 ∨
      rule.listedNames.count attributeName = 2 ∧ rule.ListsBothWays attributeName := by
  obtain ⟨names, -, unlike, attributesAre⟩ := canonical.attributes
  have items : rule.attributes.items = .ok (names.map .text) := by
    rw [attributesAre]
    rfl
  have listed : rule.listedNames = names.map Descriptor.name := by
    have texts : Descriptor.texts (names.map .text) = names := by
      simp [Descriptor.texts, List.filterMap_map, Function.comp_def, Value.text?]
    rw [listedNames, items]
    exact congrArg (·.map Descriptor.name) texts
  have among (name : String) (present : name ∈ names) : .text name ∈ names.map Value.text :=
    List.mem_map_of_mem present
  rw [listed]
  obtain once | ⟨twice, unmarked, plain, marked⟩ := Descriptor.count_names_le unlike attributeName
  · exact .inl once
  · exact .inr ⟨twice, _, items, unmarked, among _ plain, among _ marked⟩

/-- A rule is ready, or it is canonical once it is read. Every form that is read goes through
pieces; a rule that is ready was made elsewhere and may list what it likes. -/
theorem isCanonical_of_read {declared : Value} {rule : Rule}
    (read : ofDeclaration declared = .ok rule) (unready : ∀ ready, declared ≠ .rule ready) :
    rule.IsCanonical := by
  have pieces {place attributes validator : Value} {params : Value.Table Value}
      (read : ofPieces place attributes validator params = .ok rule) : rule.IsCanonical :=
    (ofPieces_eq_ok_iff.1 read).isCanonical
  have sequence {place : Value} {items : List Value}
      (read : ofSequence place items = .ok rule) : rule.IsCanonical := by
    unfold ofSequence at read
    split at read
    · exact pieces read
    · exact pieces read
    · cases read
    · cases read
  cases declared with
  | rule ready => exact absurd rfl (unready ready)
  | map entries =>
    rw [ofDeclaration, ofMap] at read
    split at read
    all_goals
      obtain ⟨params, -, read⟩ := Outcome.bind_eq_ok_iff.1 read
      exact pieces read
  | list items | tuple items => exact sequence read
  | null | bool | int | float | text | pattern | script | kind | validator | method => cases read

end Rule

/-! ## Validators of rules -/

/-- The attributes of the validator of a rule are those that the rule lists. -/
theorem Compilation.NamedAs.attributeNames_eq {rule : Rule} {validator : Validator}
    (named : NamedAs rule validator) : validator.attributeNames = rule.listedNames := by
  rw [Rule.listedNames, named.attributes]
  rfl

/-- The check of a rule's validator is called once at most for an attribute, unless the rule lists
the attribute with the mark and without. -/
theorem check_called_once {registry : Registry} {owner : Option Owner} {entry : Value} {rule : Rule}
    {validator : Validator} (read : Rule.ofDeclaration entry = .ok rule)
    (compiled : compile registry owner [entry] = .ok [validator]) {ρ : Type} (host : Host ρ)
    (requested : Value) (session : Session ρ) (name : String) :
    let calls := validator.checkCalls host requested session
    let after := (validator.runOn host requested).final session
    after = validator.reportEach host calls session ∧
    calls.Sublist rule.listedNames ∧
    ((∀ ready, entry ≠ .rule ready) → rule.IsCanonical) ∧
    (rule.IsCanonical → calls.count name ≤ 1 ∨ calls.count name = 2 ∧ rule.ListsBothWays name) ∧
    (validator.Unconditional → validator.checks = true →
      (validator.runOn host requested).outcome session = .ok () →
        validator.coveredBy requested = .ok calls) ∧
    (validator.CallsKeep host Session.errors → ∃ answers : List (List Value),
      answers.length ≤ calls.count name ∧
      (∀ messages ∈ answers, validator.Answers host name messages) ∧
      after.errors.get (.text name) = session.errors.get (.text name) ++ answers.flatten) ∧
    (host.WritesAlone → ∀ function skipList, validator.check = .filter function skipList →
      ∀ value, host.read session.record (.text name) = .ok value →
        ∃ times ≤ calls.count name,
          host.read after.record (.text name) = function.callTimes times value) := by
  intro calls after
  have reports : after = validator.reportEach host calls session :=
    validator.final_runOn host requested session
  have named : Compilation.NamedAs rule validator := by
    rw [compile_singleton_eq_ok_iff] at compiled
    obtain rfl | ⟨other, readAs, named, -⟩ := Compilation.ofDeclaration_eq_ok compiled
    · cases read
    · obtain rfl := Except.ok.inj (readAs.symm.trans read)
      exact named
  have listed : calls.Sublist rule.listedNames := by
    rw [← named.attributeNames_eq]
    exact validator.checkCalls_sublist host requested session
  refine ⟨reports, listed, Rule.isCanonical_of_read read, fun canonical => ?_,
    validator.coveredBy_of_unconditional, fun leaves => ?_,
    fun alone function skipList filters value held => ?_⟩
  · have few := listed.count_le name
    obtain once | ⟨twice, both⟩ := canonical.count_listedNames_le name
    · exact .inl (Nat.le_trans few once)
    · rw [twice] at few
      by_cases once : calls.count name ≤ 1
      · exact .inl once
      · exact .inr ⟨by omega, both⟩
  · rw [reports]
    exact ValidatorOf.errors_reportEach leaves name calls session
  · rw [reports]
    exact ValidatorOf.read_reportEach alone filters name calls held

/-- Of two attributes that a rule wraps, the name is requested. The filter is called once for it,
and wraps it once. -/
theorem check_called_once_wrapped :
    let entry : Value := .tuple [.list ["name", "!nick"], "filter",
      .map [("filter", .script .wrap)]]
    let record : PlainRecord := { values := ⟨[("name", "x")]⟩, labels := none }
    let session : Session PlainRecord := { record, errors := .empty, events := [] }
    ∃ rule validator, Rule.ofDeclaration entry = .ok rule ∧
      compile .builtin none [entry] = .ok [validator] ∧
      let calls := validator.checkCalls record.host (.list ["name"]) session
      let after := (validator.runOn record.host (.list ["name"])).final session
      calls.count "name" ≤ 1 ∧
      (∃ times ≤ calls.count "name",
        after.record.read "name" = (Value.script .wrap).callTimes times "x") ∧
      after.record.read "name" = .ok (.list ["x"]) := by
  intro entry record session
  let rule : Rule := {
    attributes := .list ["name", "!nick"], validator := "filter", on := .list []
    except := .list [], params := [("filter", .script .wrap)] }
  let validator : Validator := { Validator.marking ["name", "!nick"] [] [] with
    skipOnError := .bool false, skipOnEmpty := .bool false
    check := .filter (.script .wrap) (.bool false) }
  have read : Rule.ofDeclaration entry = .ok rule := rfl
  have compiled : compile .builtin none [entry] = .ok [validator] := rfl
  obtain ⟨-, -, canonical, once, -, -, filtered⟩ :=
    check_called_once read compiled record.host (.list ["name"]) session "name"
  have oneWay : ¬rule.ListsBothWays "name" := by
    rintro ⟨descriptors, items, -, -, marked⟩
    obtain rfl := Except.ok.inj items
    simp at marked
  exact ⟨rule, validator, read, compiled,
    (once (canonical nofun)).resolve_right fun both => oneWay both.2,
    filtered record.writesAlone _ _ rfl _ rfl, rfl⟩

/-- An attribute that a rule lists with the mark and without is not checked once at most: its filter
is called twice for it, and wraps what it has wrapped before. -/
theorem wrapped_twice :
    let entry : Value := .tuple [.list ["a", "!a"], "filter", .map [("filter", .script .wrap)]]
    let record : PlainRecord := { values := ⟨[("a", "x")]⟩, labels := none }
    let session : Session PlainRecord := { record, errors := .empty, events := [] }
    ∃ rule validator, Rule.ofDeclaration entry = .ok rule ∧
      compile .builtin none [entry] = .ok [validator] ∧
      let calls := validator.checkCalls record.host .null session
      let after := (validator.runOn record.host .null).final session
      calls = ["a", "a"] ∧ ¬calls.count "a" ≤ 1 ∧
        after.record.read "a" = .ok (.list [.list ["x"]]) := by
  intro entry record session
  refine ⟨_, _, rfl, rfl, rfl, ?_, rfl⟩
  show ¬["a", "a"].count "a" ≤ 1
  decide

end RecordValidation
