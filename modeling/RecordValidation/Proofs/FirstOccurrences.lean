import Mathlib.Data.List.Induction
import Mathlib.Data.List.Sort
import RecordValidation.Model
import RecordValidation.Proofs.RuleReading
import RecordValidation.Proofs.ScenarioIsolation
import RecordValidation.Proofs.Turns
import RecordValidation.Rule.Declaration

/-!
# Names kept where they first occur

Names are freed of repetitions in three places: where a rule lists them, where scenarios are
declared, and in the buckets in which the descriptors of validators are collected.
`FirstOccurrences` says what is left without saying how it is found: the same names, none of them
twice, in the order in which they first occur. There is one such list for any names, and it is the
one that `distinct` gives (`firstOccurrences_iff`).

A scenario map is clean if nothing is left to drop from it (`ScenarioMap.IsClean`). Maps that are
resolved or declared are clean, and declaring a clean map by what it holds gives it back
(`ScenarioMap.IsClean.redeclared`). `repetitions_dropped_alike` puts the three places together.
-/

namespace RecordValidation

namespace Value

/-- What is left of names if each is kept once, where it first occurs. -/
structure FirstOccurrences (names kept : List Value) : Prop where
  /-- The same names are there. -/
  members : ∀ name, kept.contains name = names.contains name
  /-- None of them is there twice. -/
  unlike : kept.Pairwise fun a b => (a == b) = false
  /-- Of names that are the same, the first one is there. -/
  first : ∀ name ∈ kept, names.find? (· == name) = some name
  /-- They stand in the order in which they first occur. -/
  ordered : kept.Pairwise fun a b => names.findIdx (· == a) < names.findIdx (· == b)

/-- Names are among others exactly if they first occur before their end. Sameness goes both ways, so
it does not matter which of two names is compared with the other. -/
theorem findIdx_lt_iff {names : List Value} {name : Value} :
    names.findIdx (· == name) < names.length ↔ names.contains name = true := by
  rw [List.findIdx_lt_length, List.contains_iff_exists_mem_beq]
  constructor
  · rintro ⟨other, present, same⟩
    exact ⟨other, present, BEq.symm same⟩
  · rintro ⟨other, present, same⟩
    exact ⟨other, present, BEq.symm same⟩

/-- Where a name first occurs does not change if names are put behind. -/
theorem findIdx_append_of_contains {names : List Value} {name : Value} (later : List Value)
    (among : names.contains name = true) :
    (names ++ later).findIdx (· == name) = names.findIdx (· == name) := by
  rw [List.findIdx_append, if_pos (findIdx_lt_iff.2 among)]

/-- A name that is not among others first occurs behind them. -/
theorem findIdx_append_of_not_contains {names : List Value} {name : Value}
    (new : names.contains name = false) :
    (names ++ [name]).findIdx (· == name) = names.length := by
  have behind : ¬names.findIdx (· == name) < names.length := by
    rw [findIdx_lt_iff, new]
    exact Bool.false_ne_true
  rw [List.findIdx_append, if_neg behind]
  simp [List.findIdx_cons]

namespace FirstOccurrences

variable {names kept : List Value} (occurrences : FirstOccurrences names kept)

include occurrences

/-- What is left are names that are given. -/
theorem contains_of_mem {name : Value} (present : name ∈ kept) : names.contains name = true := by
  rw [← occurrences.members]
  exact List.contains_iff_exists_mem_beq.2 ⟨name, present, BEq.rfl⟩

/-- What is left comes first also if names are put behind. -/
theorem first_append (later : List Value) :
    ∀ name ∈ kept, (names ++ later).find? (· == name) = some name := by
  intro name present
  rw [List.find?_append, occurrences.first name present, Option.some_or]

/-- What is left stays in order if names are put behind. -/
theorem ordered_append (later : List Value) : kept.Pairwise fun a b =>
    (names ++ later).findIdx (· == a) < (names ++ later).findIdx (· == b) := by
  refine occurrences.ordered.imp_of_mem fun presentA presentB before => ?_
  rwa [findIdx_append_of_contains _ (occurrences.contains_of_mem presentA),
    findIdx_append_of_contains _ (occurrences.contains_of_mem presentB)]

/-- A name that is there already is passed over. It is the same as an earlier one, and no place of a
first occurrence changes. -/
theorem skip {name : Value} (known : names.contains name = true) :
    FirstOccurrences (names ++ [name]) kept where
  members other := by
    rw [occurrences.members, List.contains_append, List.contains_cons, List.contains_nil,
      Bool.or_false]
    cases same : other == name with
    | true => rw [List.contains_congr same, known, Bool.or_true]
    | false => rw [Bool.or_false]
  unlike := occurrences.unlike
  first := occurrences.first_append [name]
  ordered := occurrences.ordered_append [name]

/-- A new name is put behind the others. Its place is the end, behind all others, and it is unlike
all of them. -/
theorem append {name : Value} (new : names.contains name = false) :
    FirstOccurrences (names ++ [name]) (kept ++ [name]) where
  members other := by
    rw [List.contains_append, List.contains_append, occurrences.members]
  unlike := by
    refine pairwise_concat occurrences.unlike fun other present => ?_
    rw [Bool.eq_false_iff]
    intro same
    rw [← List.contains_congr same, occurrences.contains_of_mem present] at new
    cases new
  first := by
    refine List.forall_mem_append.2 ⟨occurrences.first_append [name], ?_⟩
    rw [List.forall_mem_singleton, List.find?_append]
    have none : names.find? (· == name) = none := by
      cases search : names.find? (· == name) with
      | none => rfl
      | some found =>
        have among : names.contains name = true := List.contains_iff_exists_mem_beq.2
          ⟨found, List.mem_of_find?_eq_some search,
            BEq.symm (List.find?_some (p := (· == name)) search)⟩
        rw [among] at new
        cases new
    simp [none]
  ordered := by
    refine pairwise_concat (occurrences.ordered_append [name]) fun other present => ?_
    have among := occurrences.contains_of_mem present
    rw [findIdx_append_of_contains _ among, findIdx_append_of_not_contains new]
    exact findIdx_lt_iff.2 among

end FirstOccurrences

/-- The names without repetitions are left where they first occur.

Proof: by induction on the names from their end. One more name is passed over or put behind the
others, as it is where names are collected one after the other. -/
theorem firstOccurrences_distinct (names : List Value) :
    FirstOccurrences names (distinct names) := by
  induction names using List.reverseRecOn with
  | nil => exact ⟨fun _ => rfl, .nil, by simp [distinct], .nil⟩
  | append_singleton names name inductionHypothesis =>
    rw [distinct_concat, Resolution.insertNew, contains_distinct]
    cases known : names.contains name with
    | true => exact inductionHypothesis.skip known
    | false => exact inductionHypothesis.append known

/-- What is left of names is determined by the names.

Proof: what is left twice over stands in the same order, so it is enough that the same names are
left. Of names that are the same, both keep the first. -/
theorem FirstOccurrences.unique {names kept others : List Value}
    (occurrences : FirstOccurrences names kept) (also : FirstOccurrences names others) :
    kept = others := by
  have within : ∀ {these those : List Value}, FirstOccurrences names these →
      FirstOccurrences names those → ∀ name ∈ these, name ∈ those := by
    intro these those left right name present
    have among : those.contains name = true := by
      rw [right.members]
      exact left.contains_of_mem present
    obtain ⟨other, listed, same⟩ := List.contains_iff_exists_mem_beq.1 among
    have found : names.find? (· == name) = some other := by
      rw [← right.first other listed]
      congr 1
      funext tested
      exact BEq.congr_right same
    rw [left.first name present] at found
    exact Option.some.inj found ▸ listed
  let before (a b : Value) : Prop := names.findIdx (· == a) < names.findIdx (· == b)
  have irreflexive : Std.Irrefl before := ⟨fun _ => Nat.lt_irrefl _⟩
  have antisymmetric : Std.Antisymm before :=
    ⟨fun _ _ first second => absurd second (Nat.lt_asymm first)⟩
  exact List.Pairwise.eq_of_mem_iff (r := before) occurrences.ordered also.ordered fun name =>
    ⟨within occurrences also name, within also occurrences name⟩

/-- What is left of names is the names without repetitions. -/
theorem firstOccurrences_iff {names kept : List Value} :
    FirstOccurrences names kept ↔ kept = distinct names := by
  constructor
  · exact fun occurrences => occurrences.unique (firstOccurrences_distinct names)
  · rintro rfl
    exact firstOccurrences_distinct names

end Value

/-! ## Declaring scenarios -/

/-- Writing entries one after the other puts the names that are new behind those that are there.
Writing an entry keeps the names if its name is there, and otherwise puts it behind them, which is
what collecting new names does. -/
theorem OrderedMap.keys_insertAll_eq {β : Type} (m : Value.Table β) (entries : List (Value × β)) :
    (m.insertAll entries).keys = (entries.map Prod.fst).foldl Resolution.insertNew m.keys := by
  induction entries generalizing m with
  | nil => rfl
  | cons entry rest inductionHypothesis =>
    have first : (m.insert entry.1 entry.2).keys = Resolution.insertNew m.keys entry.1 := by
      rw [Resolution.insertNew, m.contains_keys]
      cases present : m.contains entry.1 with
      | true => exact m.keys_insert entry.2 present
      | false => exact m.keys_alter_new entry.2 _ present
    rw [insertAll_cons, inductionHypothesis, first, List.map_cons, List.foldl_cons]

/-- The names in a map of some entries are theirs, without repetitions. -/
theorem OrderedMap.keys_ofList {β : Type} (entries : List (Value × β)) :
    (ofList entries).keys = Value.distinct (entries.map Prod.fst) := by
  rw [← Resolution.insertNew_all_eq_distinct]
  exact keys_insertAll_eq empty entries

/-- Steps that go through for each item of a list go through for the list. -/
theorem Outcome.mapM_eq_ok {α β : Type} {step : α → Outcome β} {result : α → β} {items : List α}
    (each : ∀ item ∈ items, step item = .ok (result item)) :
    items.mapM step = .ok (items.map result) := by
  induction items with
  | nil => rfl
  | cons item rest inductionHypothesis =>
    obtain ⟨here, others⟩ := List.forall_mem_cons.1 each
    rw [List.mapM_cons, here, inductionHypothesis others]
    rfl

/-- A value can be gone through. -/
def Value.IsIterable (value : Value) : Prop := value.items?.isSome = true

instance (value : Value) : Decidable value.IsIterable :=
  inferInstanceAs (Decidable (value.items?.isSome = true))

/-- What is got by going through a value is its items. -/
theorem Value.items_eq_ok_iff {value : Value} {items : List Value} :
    value.items = .ok items ↔ value.items? = some items := by
  unfold Value.items
  cases value.items? with
  | none => simp
  | some held => rw [Except.ok.injEq, Option.some.injEq]

namespace ScenarioMap

/-- Scenarios and their descriptors can be declared: the scenarios can be names, and the values that
hold the descriptors can be gone through. If several scenarios are the same, the last one counts. -/
structure Declarable (entries : List (Value × Value)) : Prop where
  named : ∀ entry ∈ entries, entry.1.IsName
  listed : ∀ entry ∈ (OrderedMap.ofList entries).entries, entry.2.IsIterable

/-- Declared scenarios: each with the items that are given for it, without their repetitions. -/
def cleaned (entries : List (Value × Value)) : ScenarioMap :=
  ⟨(OrderedMap.ofList entries).mapValues fun given => Value.distinct (given.items?.getD [])⟩

/-- Scenarios that can be names are taken as they are. -/
theorem mapM_asName_of_isName {entries : List (Value × Value)}
    (named : ∀ entry ∈ entries, entry.1.IsName) :
    entries.mapM (fun entry => do return (← entry.1.asName, entry.2)) =
      (.ok entries : Outcome (List (Value × Value))) := by
  have each : entries.mapM (fun entry => do return (← entry.1.asName, entry.2)) =
      (.ok (entries.map fun entry => entry) : Outcome (List (Value × Value))) := by
    apply Outcome.mapM_eq_ok
    intro entry present
    rw [Value.asName_of_isName (named entry present)]
    rfl
  rwa [List.map_id'] at each

/-- Scenarios that can be declared give the map of them. The two rounds of reading go through, and
dropping repetitions afterwards is what `cleaned` does at once. -/
theorem Declarable.ofDeclared_eq {entries : List (Value × Value)}
    (declarable : Declarable entries) : ofDeclared entries = .ok (cleaned entries) := by
  have listed : (OrderedMap.ofList entries).entries.mapM (fun entry => do
      return (entry.1, ← entry.2.items)) = .ok ((OrderedMap.ofList entries).entries.map
        fun entry => (entry.1, entry.2.items?.getD [])) := by
    apply Outcome.mapM_eq_ok
    intro entry present
    obtain ⟨items, found⟩ := Option.isSome_iff_exists.1 (declarable.listed entry present)
    rw [Value.items_eq_ok_iff.2 found, found]
    rfl
  have whole : ofEntries entries =
      .ok ⟨(OrderedMap.ofList entries).mapValues fun given => given.items?.getD []⟩ := calc
    _ = (do
        let scenarios ← (OrderedMap.ofList entries).entries.mapM fun entry => do
          return (entry.1, ← entry.2.items)
        return ⟨⟨scenarios⟩⟩) := by
      rw [ofEntries, mapM_asName_of_isName declarable.named]
      rfl
    _ = _ := by
      rw [listed]
      rfl
  have dropped : withoutRepetitions
      ⟨(OrderedMap.ofList entries).mapValues fun given => given.items?.getD []⟩ =
        cleaned entries := by
    simp only [withoutRepetitions, cleaned, OrderedMap.mapValues, List.map_map, Function.comp_def]
  rw [ofDeclared, whole, ← dropped]
  rfl

/-- Scenarios that give a map can be declared. -/
theorem declarable_of_ofDeclared {entries : List (Value × Value)} {declared : ScenarioMap}
    (declares : ofDeclared entries = .ok declared) : Declarable entries := by
  obtain ⟨whole, given, -⟩ := Outcome.map_eq_ok_iff.1 declares
  obtain ⟨taken, namesTaken, others⟩ := Outcome.bind_eq_ok_iff.1 given
  obtain ⟨scenarios, itemsTaken, -⟩ := Outcome.bind_eq_ok_iff.1 others
  have named : ∀ entry ∈ entries, entry.1.IsName := by
    intro entry present
    obtain ⟨pair, passes⟩ := Outcome.exists_mapM_iff.1 ⟨taken, namesTaken⟩ entry present
    obtain ⟨name, isName, -⟩ := Outcome.bind_eq_ok_iff.1 passes
    exact (Value.isName_of_asName isName).2
  obtain rfl : entries = taken :=
    Except.ok.inj ((mapM_asName_of_isName named).symm.trans namesTaken)
  refine ⟨named, fun entry present => ?_⟩
  obtain ⟨pair, passes⟩ := Outcome.exists_mapM_iff.1 ⟨scenarios, itemsTaken⟩ entry present
  obtain ⟨items, found, -⟩ := Outcome.bind_eq_ok_iff.1 passes
  exact Option.isSome_iff_exists.2 ⟨items, Value.items_eq_ok_iff.1 found⟩

/-- Declaring scenarios gives a map exactly if they can be declared, and it is the map of them. -/
theorem ofDeclared_eq_ok_iff {entries : List (Value × Value)} {declared : ScenarioMap} :
    ofDeclared entries = .ok declared ↔ Declarable entries ∧ cleaned entries = declared := by
  constructor
  · intro declares
    have declarable := declarable_of_ofDeclared declares
    exact ⟨declarable, Except.ok.inj (declarable.ofDeclared_eq.symm.trans declares)⟩
  · rintro ⟨declarable, rfl⟩
    exact declarable.ofDeclared_eq

/-- Nothing is left to drop from a scenario map: its scenarios can be names and are unlike each
other, and no descriptor stands under a scenario twice. -/
structure IsClean (m : ScenarioMap) : Prop where
  named : ∀ scenario ∈ m.names, scenario.IsName
  unlike : m.names.Pairwise fun a b => (a == b) = false
  kept : ∀ entry ∈ m.scenarios.entries, Value.distinct entry.2 = entry.2

/-- What is declared is clean. Its scenarios are the keys of a map, and what stands under them has
been freed of repetitions. -/
theorem isClean_of_ofDeclared {entries : List (Value × Value)} {declared : ScenarioMap}
    (declares : ofDeclared entries = .ok declared) : declared.IsClean := by
  obtain ⟨declarable, rfl⟩ := ofDeclared_eq_ok_iff.1 declares
  have scenarios : (cleaned entries).names = Value.distinct (entries.map Prod.fst) := by
    rw [names, cleaned, OrderedMap.keys_mapValues, OrderedMap.keys_ofList]
  refine ⟨?_, ?_, ?_⟩
  · intro scenario present
    rw [scenarios] at present
    obtain ⟨entry, among, rfl⟩ := List.mem_map.1 (Value.mem_of_mem_distinct present)
    exact declarable.named entry among
  · rw [scenarios]
    exact Value.pairwise_distinct _
  · intro entry present
    obtain ⟨given, -, rfl⟩ := List.mem_map.1 present
    exact Value.distinct_distinct _

/-- The descriptors that are declared for a scenario are the items given for it, without their
repetitions. What stands under the scenario is the last of what was given for it, if it was given
more than once. -/
theorem descriptors_of_ofDeclared {entries : List (Value × Value)} {declared : ScenarioMap}
    (declares : ofDeclared entries = .ok declared) {scenario given : Value} {items : List Value}
    (stands : (OrderedMap.ofList entries).get? scenario = some given)
    (listed : given.items? = some items) :
    declared.descriptors scenario = Value.distinct items := by
  obtain ⟨-, rfl⟩ := ofDeclared_eq_ok_iff.1 declares
  simp only [descriptors, cleaned, OrderedMap.get?_mapValues, stands, Option.map_some, listed,
    Option.getD_some]

/-- A clean map declared by what it holds is the same map.

Proof: its scenarios are unlike each other, so each is declared once, and nothing is dropped from
its descriptors. -/
theorem IsClean.redeclared {m : ScenarioMap} (clean : m.IsClean) :
    ofDeclared (Model.asDeclared m) = .ok m := by
  obtain ⟨⟨entries⟩⟩ := m
  have unlike : (Model.asDeclared ⟨⟨entries⟩⟩).Pairwise fun a b => (a.1 == b.1) = false :=
    List.pairwise_map.2 (List.pairwise_map.1 clean.unlike)
  have once : OrderedMap.ofList (Model.asDeclared ⟨⟨entries⟩⟩) = ⟨Model.asDeclared ⟨⟨entries⟩⟩⟩ :=
    congrArg OrderedMap.mk (OrderedMap.empty.entries_insertAll_new _ unlike fun _ _ => rfl)
  have declarable : Declarable (Model.asDeclared ⟨⟨entries⟩⟩) := by
    refine ⟨fun entry present => ?_, fun entry present => ?_⟩
    · obtain ⟨given, held, rfl⟩ := List.mem_map.1 present
      exact clean.named _ (List.mem_map_of_mem held)
    · rw [once] at present
      obtain ⟨given, -, rfl⟩ := List.mem_map.1 present
      rfl
  have same : ((Model.asDeclared ⟨⟨entries⟩⟩).map fun entry =>
      (entry.1, Value.distinct (entry.2.items?.getD []))) = entries := by
    simp only [Model.asDeclared, OrderedMap.mapValues, List.map_map]
    refine (List.map_congr_left fun entry present => ?_).trans (List.map_id entries)
    exact Prod.ext rfl (clean.kept entry present)
  rw [declarable.ofDeclared_eq, cleaned, once]
  simp only [OrderedMap.mapValues, same]

/-- A map that is resolved is clean. Its names were taken as names before anything was collected,
and candidates and descriptors are collected without repetitions. -/
theorem isClean_of_resolve {default : Value} {validators : List Validator} {resolved : ScenarioMap}
    (resolves : resolve default validators = .ok resolved) : resolved.IsClean := by
  obtain ⟨looked, taken, whole⟩ := Outcome.bind_eq_ok_iff.1 resolves
  obtain rfl : Resolution.scenarioMap default validators = resolved := Except.ok.inj whole
  have areNames := (Value.isName_of_asNames taken).2
  refine ⟨?_, ?_, ?_⟩
  · intro scenario present
    rw [Resolution.names_scenarioMap] at present
    refine areNames scenario ?_
    rcases List.mem_cons.1 present with rfl | other
    · exact List.mem_append_left _ List.mem_cons_self
    · have mentioned := Value.mem_of_mem_distinct (List.mem_filter.1 other).1
      exact List.mem_append_left _ (List.mem_cons_of_mem _ mentioned)
  · rw [Resolution.scenarioMap_eq, Resolution.candidates_eq]
    have unlike := (Value.pairwise_distinct
      (default :: validators.flatMap Resolution.mentioned)).filter
        (Resolution.survives default validators)
    simpa only [names, OrderedMap.keys, List.map_map, Function.comp_def, List.map_id'] using unlike
  · rw [Resolution.scenarioMap_eq]
    intro entry present
    obtain ⟨scenario, -, rfl⟩ := List.mem_map.1 present
    exact Value.distinct_distinct _

end ScenarioMap

/-- The descriptors of a scenario that is resolved are those of the validators active in it, without
repetitions. That the map declares the scenario is needed, as there are no descriptors under one it
does not know. -/
theorem descriptors_of_resolve {default scenario : Value} {validators : List Validator}
    {resolved : ScenarioMap} (resolves : resolve default validators = .ok resolved)
    (declared : resolved.declares scenario = .ok true) : resolved.descriptors scenario =
      Value.distinct ((validators.filter (·.appliesTo scenario)).flatMap (·.attributes)) := by
  obtain ⟨looked, -, whole⟩ := Outcome.bind_eq_ok_iff.1 resolves
  obtain rfl : Resolution.scenarioMap default validators = resolved := Except.ok.inj whole
  have named := ScenarioMap.isName_of_declares declared
  rw [Resolution.declares_scenarioMap default validators named] at declared
  exact Resolution.descriptors_scenarioMap (of_decide_eq_true (Except.ok.inj declared))

/-- Repetitions are dropped alike wherever they are dropped.

For any names there is exactly one list that has the same names, none of them twice, in the order in
which they first occur. That list is what a rule makes of the names, given as a list or as a tuple;
it is what is left of them under a scenario that is declared with them; and it is what is collected
under a resolved scenario by validators that have these names one after the other.

So what validators resolve to, declared once more, is the same map: the same scenarios with the same
descriptors, in the same order. And so is what any declaration of scenarios has given. Validators
resolve if all that they name can be names, and scenarios are declared exactly if they can be names
and what is given for them can be gone through.

Proof: in all three places the names without repetitions are left, which is what the names that are
left where they first occur are. Maps that are resolved and maps that are declared are clean, and a
clean map that is declared once more is the same. -/
theorem repetitions_dropped_alike :
    (∀ names : List Value, ∃ kept,
      (∀ others, Value.FirstOccurrences names others ↔ others = kept) ∧
      Rule.nameList? (.list names) = some kept ∧ Rule.nameList? (.tuple names) = some kept ∧
      (∀ (entries : List (Value × Value)) (declared : ScenarioMap) (scenario given : Value),
        ScenarioMap.ofDeclared entries = .ok declared →
        (OrderedMap.ofList entries).get? scenario = some given → given.items? = some names →
          declared.descriptors scenario = kept) ∧
      ∀ (default scenario : Value) (validators : List Validator) (resolved : ScenarioMap),
        resolve default validators = .ok resolved → resolved.declares scenario = .ok true →
        (validators.filter (·.appliesTo scenario)).flatMap (·.attributes) = names →
          resolved.descriptors scenario = kept) ∧
    (∀ (default : Value) (validators : List Validator),
      (default.IsName → (∀ validator ∈ validators, validator.Nameable) →
        ∃ resolved, resolve default validators = .ok resolved) ∧
      ∀ resolved, resolve default validators = .ok resolved →
        ScenarioMap.ofDeclared (Model.asDeclared resolved) = .ok resolved) ∧
    ∀ entries : List (Value × Value),
      ((∃ declared, ScenarioMap.ofDeclared entries = .ok declared) ↔
        ScenarioMap.Declarable entries) ∧
      ∀ declared, ScenarioMap.ofDeclared entries = .ok declared →
        ScenarioMap.ofDeclared (Model.asDeclared declared) = .ok declared := by
  refine ⟨fun names => ?_, fun default validators => ⟨?_, ?_⟩, fun entries => ⟨⟨?_, ?_⟩, ?_⟩⟩
  · refine ⟨Value.distinct names, fun _ => Value.firstOccurrences_iff, rfl, rfl, ?_, ?_⟩
    · exact fun entries declared scenario given declares stands listed =>
        ScenarioMap.descriptors_of_ofDeclared declares stands listed
    · rintro default scenario validators resolved resolves declared rfl
      exact descriptors_of_resolve resolves declared
  · exact fun defaultNamed nameable => ⟨_, resolve_of_nameable defaultNamed nameable⟩
  · exact fun resolved resolves => (ScenarioMap.isClean_of_resolve resolves).redeclared
  · rintro ⟨declared, declares⟩
    exact ScenarioMap.declarable_of_ofDeclared declares
  · exact fun declarable => ⟨_, declarable.ofDeclared_eq⟩
  · exact fun declared declares => (ScenarioMap.isClean_of_ofDeclared declares).redeclared

/-- Two validators of the sign-up form that are active in `review` have the name. A rule, a
declaration and the resolver leave it where it first stands, and what is resolved or declared is the
same if it is declared once more. -/
theorem repetitions_dropped_alike_signUp :
    let names : List Value := [.text "name", .text "!role", .text "role", .text "name"]
    let kept : List Value := [.text "name", .text "!role", .text "role"]
    Value.FirstOccurrences names kept ∧
    Rule.nameList? (.list names) = some kept ∧ Rule.nameList? (.tuple names) = some kept ∧
    (∃ declared, ScenarioMap.ofDeclared
        [(.text "default", .list [.text "role"]), (.text "review", .tuple names)] = .ok declared ∧
      declared.descriptors (.text "review") = kept ∧
      ScenarioMap.ofDeclared (Model.asDeclared declared) = .ok declared) ∧
    ∃ resolved, resolve (.text "default") signUpValidators = .ok resolved ∧
      resolved.descriptors (.text "review") = kept ∧
      ScenarioMap.ofDeclared (Model.asDeclared resolved) = .ok resolved := by
  intro names kept
  obtain ⟨alike, validated, given⟩ := repetitions_dropped_alike
  obtain ⟨found, unique, asList, asTuple, declaring, resolving⟩ := alike names
  obtain rfl : kept = found := by
    have evaluated : Rule.nameList? (.list names) = some kept := rfl
    exact Option.some.inj (evaluated.symm.trans asList)
  refine ⟨(unique _).2 rfl, asList, asTuple, ?_, ?_⟩
  · obtain ⟨declarable, again⟩ := given
      [(.text "default", .list [.text "role"]), (.text "review", .tuple names)]
    obtain ⟨declared, declares⟩ := declarable.2 ⟨by simp, by decide⟩
    exact ⟨declared, declares, declaring _ _ (.text "review") _ declares rfl rfl,
      again _ declares⟩
  · have defaultNamed : (Value.text "default").IsName := rfl
    have nameable : ∀ validator ∈ signUpValidators, validator.Nameable := by decide
    obtain ⟨resolves, again⟩ := validated (.text "default") signUpValidators
    obtain ⟨resolved, whole⟩ := resolves defaultNamed nameable
    have declares : resolved.declares (.text "review") = .ok true := by
      rw [← Except.ok.inj ((resolve_of_nameable defaultNamed nameable).symm.trans whole)]
      rfl
    exact ⟨resolved, whole, resolving _ (.text "review") _ _ whole declares rfl, again _ whole⟩

end RecordValidation
