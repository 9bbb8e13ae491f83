import RecordValidation.Proofs.CompileFaults
import RecordValidation.Proofs.Effects
import RecordValidation.Proofs.ScenarioViews

/-!
# What a declaration of a rule says

A rule is put together from attributes, a validator and parameters. `Rule.Declares` says what rule
they declare, in terms of the names that values list (`Value.Lists`): the names without their
repetitions, the validator as it is, and the parameters without those that limit scenarios. Reading
the pieces gives that rule and no other (`Rule.ofPieces_eq_ok_iff`); pieces that declare no rule are
refused for a problem that does not depend on where they stand (`Rule.ofPieces_cases`).

`declaration_blamed_exact` is about declarations of every shape. One that is refused is blamed
itself, with one exception: what stands under `params` of a map has to be a table, and if it is none
the reading stops before there is anything to blame.
-/

namespace RecordValidation

/-! ## Names that a value lists -/

namespace Value

/-- The names that a value lists: none if it is absent, the text that it is, or the texts of a list
or a tuple. -/
inductive Lists : Value → List String → Prop
  | absent : Lists null []
  | single (name : String) : Lists (text name) [name]
  | list (names : List String) : Lists (list (names.map text)) names
  | tuple (names : List String) : Lists (tuple (names.map text)) names

/-- Values are texts exactly if they are the texts of some names. One direction goes by induction on
the values, since the names have to be found one by one. -/
theorem all_texts_iff (values : List Value) :
    (∀ value ∈ values, value.text?.isSome = true) ↔
      ∃ names : List String, values = names.map text := by
  constructor
  · intro areTexts
    induction values with
    | nil => exact ⟨[], rfl⟩
    | cons value rest inductionHypothesis =>
      obtain ⟨name, rfl⟩ := eq_text_of_isSome (areTexts value (by simp))
      obtain ⟨names, rfl⟩ := inductionHypothesis fun other later =>
        areTexts other (List.mem_cons_of_mem _ later)
      exact ⟨name :: names, rfl⟩
  · rintro ⟨names, rfl⟩ value present
    obtain ⟨name, -, rfl⟩ := List.mem_map.1 present
    rfl

/-- Values are texts exactly if those that are left without repetitions are: what is the same as a
text is that text. -/
theorem all_texts_distinct_iff (values : List Value) :
    (∀ value ∈ distinct values, value.text?.isSome = true) ↔
      ∀ value ∈ values, value.text?.isSome = true := by
  constructor
  · intro areTexts value present
    have among : (distinct values).contains value = true := by
      rw [contains_distinct]
      exact List.contains_iff_exists_mem_beq.2 ⟨value, present, BEq.rfl⟩
    obtain ⟨kept, inDistinct, same⟩ := List.contains_iff_exists_mem_beq.1 among
    obtain ⟨name, rfl⟩ := eq_text_of_isSome (areTexts kept inDistinct)
    rw [(text_beq_iff name value).1 (BEq.symm same)]
    rfl
  · exact fun areTexts value present => areTexts value (mem_of_mem_distinct present)

end Value

namespace Rule

open Value (null text list tuple map)

/-! ## What is wrong with the parts of a rule -/

/-- What is made of a value that lists names is the names without their repetitions. -/
theorem nameList?_of_lists {value : Value} {names : List String} (lists : value.Lists names) :
    nameList? value = some (names.eraseDups.map text) := by
  cases lists with
  | absent => rfl
  | single name => simp [nameList?, List.eraseDups_cons]
  | list | tuple => simp only [nameList?, Value.distinct_texts]

/-- Nothing is wrong with the types of names exactly if the names are texts. Each complaint is made
at a place of the list, so a name is looked for at its place. -/
theorem nameComplaints_eq_nil_iff_texts {heading : String} {value : Value} {names : List Value}
    (named : nameList? value = some names) :
    nameComplaints heading value = [] ↔ ∀ name ∈ names, name.text?.isSome = true := by
  simp only [nameComplaints, named, List.filterMap_eq_nil_iff]
  constructor
  · intro accepted name present
    obtain ⟨index, found⟩ := List.mem_iff_getElem?.1 present
    have silent := accepted (name, index) (List.mk_mem_zipIdx_iff_getElem?.2 found)
    by_cases isText : name.text?.isSome = true
    · exact isText
    · rw [if_neg isText] at silent
      cases silent
  · intro areTexts entry present
    rw [if_pos (areTexts entry.1 (List.fst_mem_of_mem_zipIdx present))]

/-- Nothing is wrong with the types of names exactly if the value they are given by lists some.
Values that list nothing are refused as a whole, and a list is refused for its items; taking out
repetitions does not change which of them are texts. -/
theorem nameComplaints_eq_nil_iff (heading : String) (value : Value) :
    nameComplaints heading value = [] ↔ ∃ names, value.Lists names := by
  constructor
  · intro accepted
    cases value with
    | null => exact ⟨[], .absent⟩
    | text name => exact ⟨[name], .single name⟩
    | list items =>
      obtain ⟨names, rfl⟩ := (Value.all_texts_iff items).1 <| (Value.all_texts_distinct_iff items).1
        ((nameComplaints_eq_nil_iff_texts rfl).1 accepted)
      exact ⟨names, .list names⟩
    | tuple items =>
      obtain ⟨names, rfl⟩ := (Value.all_texts_iff items).1 <| (Value.all_texts_distinct_iff items).1
        ((nameComplaints_eq_nil_iff_texts rfl).1 accepted)
      exact ⟨names, .tuple names⟩
    | rule parts =>
      -- A rule that stands for names is gone through part by part, and its parts are pairs.
      have standsFor : nameList? (.rule parts) = some (Value.partsOfRule parts) := rfl
      have areTexts := (nameComplaints_eq_nil_iff_texts standsFor).1 accepted
      cases areTexts (tuple [text "attributes", parts.attributes]) (by simp [Value.partsOfRule])
    | bool | int | float | map | pattern | script | kind | validator | method => cases accepted
  · rintro ⟨names, lists⟩
    rw [nameComplaints_eq_nil_iff_texts (nameList?_of_lists lists)]
    exact (Value.all_texts_iff _).2 ⟨_, rfl⟩

/-- Something that can be asked for as a validator: a text that is not empty, or something that can
be called. -/
def CanValidate (validator : Value) : Prop :=
  (∃ name, validator = text name ∧ name ≠ "") ∨ validator.isCallable = true

/-- A validator passes both tests exactly if it can be asked for as one. One test is for what is
missing and the other for what has the wrong type, and a text passes the second in any case. -/
theorem canValidate_iff (validator : Value) :
    namesValidator validator = true ∧ validatorComplaints validator = [] ↔
      CanValidate validator := by
  cases validator with
  | text name =>
    simp [namesValidator, validatorComplaints, CanValidate, Value.text?, Value.isCallable]
  | null | bool | int | float | list | tuple | map | pattern | script | kind | validator | rule
  | method =>
    simp [namesValidator, validatorComplaints, CanValidate, Value.text?, Value.isCallable]

/-- Nothing is wrong with the names of parameters exactly if they are texts. -/
theorem paramComplaints_eq_nil_iff (params : Value.Table Value) :
    paramComplaints params = [] ↔ ∀ entry ∈ params.entries, entry.1.text?.isSome = true := by
  simp only [paramComplaints, OrderedMap.keys, List.filterMap_eq_nil_iff, List.forall_mem_map,
    ite_eq_left_iff, reduceCtorEq, imp_false, Decidable.not_not]

/-! ## What pieces declare -/

/-- The names of the parameters that limit scenarios. -/
def limitNames : List Value := [text "on", text "except", text "except_"]

/-- The scenarios that parameters leave out: those under `except` or, if nothing stands there, those
under `except_`. -/
def excepted (params : Value.Table Value) : Value :=
  match params.get? "except" with
  | none | some null => (params.get? "except_").getD null
  | some given => given

/-- The rule that attributes, a validator and parameters declare. -/
structure Declares (attributes validator : Value) (params : Value.Table Value) (rule : Rule) :
    Prop where
  given : attributes.truthy = true
  attributes : ∃ names, attributes.Lists names ∧ rule.attributes = list (names.eraseDups.map text)
  canValidate : CanValidate validator
  validator : rule.validator = validator
  on : ∃ names, ((params.get? "on").getD null).Lists names ∧
    rule.on = list (names.eraseDups.map text)
  except : ∃ names, (excepted params).Lists names ∧ rule.except = list (names.eraseDups.map text)
  params : rule.params = params.entries.filter fun entry => !limitNames.contains entry.1
  named : ∀ entry ∈ rule.params, entry.1.text?.isSome = true

/-- Splitting parameters puts the limits among them in fields of their own and leaves the others as
they are given. -/
theorem splitParams_eq (attributes validator : Value) (params : Value.Table Value) :
    splitParams attributes validator params = {
      attributes, validator
      on := (params.get? "on").getD null
      except := excepted params
      params := ⟨params.entries.filter fun entry => !limitNames.contains entry.1⟩ } := by
  have limits : excepted params =
      (splitParams attributes validator params).except := by
    simp only [excepted, splitParams]
    split
    · rename_i absent
      simp [absent, Value.isNull]
    · rename_i absent
      simp [absent, Value.isNull]
    · rename_i given unlike present
      have stays : given.isNull = false := by
        cases given with
        | null => exact absurd rfl unlike
        | _ => rfl
      simp [present, stays]
  rw [limits]
  simp only [splitParams, OrderedMap.erase, List.filter_filter, limitNames]
  congr 3
  funext entry
  simp only [List.contains_cons, List.contains_nil, Bool.or_false, Bool.not_or,
    BEq.comm (a := entry.1)]
  ac_rfl

/-- Nothing is wrong with the types of the parts of a rule exactly if nothing is wrong with any of
them. -/
theorem complaints_eq_nil_iff (parts : Parts) :
    complaints parts = [] ↔
      (∃ names, parts.attributes.Lists names) ∧ validatorComplaints parts.validator = [] ∧
        (∃ names, parts.on.Lists names) ∧ (∃ names, parts.except.Lists names) ∧
          ∀ entry ∈ parts.params.entries, entry.1.text?.isSome = true := by
  simp only [complaints, List.append_eq_nil_iff, nameComplaints_eq_nil_iff,
    paramComplaints_eq_nil_iff, and_assoc]

/-- Pieces are read as the rule that they declare, and if they declare none they are not read.
Reading is a row of tests, and each field of `Declares` is what one of them comes to. -/
theorem ofPieces_eq_ok_iff {declared attributes validator : Value} {params : Value.Table Value}
    {rule : Rule} :
    ofPieces declared attributes validator params = .ok rule ↔
      Declares attributes validator params rule := by
  constructor
  · intro read
    unfold ofPieces at read
    split at read
    · rename_i complete
      obtain ⟨given, namesOne⟩ := Bool.and_eq_true_iff.1 complete
      rw [splitParams_eq] at read
      unfold ofParts at read
      split at read
      · rename_i sound
        obtain ⟨⟨names, attributesListed⟩, accepted, ⟨limits, onListed⟩, ⟨exceptions, exceptListed⟩,
          named⟩ := (complaints_eq_nil_iff _).1 sound
        obtain rfl := Except.ok.inj read
        simp only [nameList?_of_lists attributesListed, nameList?_of_lists onListed,
          nameList?_of_lists exceptListed, Option.getD_some]
        exact ⟨given, ⟨names, attributesListed, rfl⟩, (canValidate_iff _).1 ⟨namesOne, accepted⟩,
          rfl, ⟨limits, onListed, rfl⟩, ⟨exceptions, exceptListed, rfl⟩, rfl, named⟩
      · cases read
    · cases read
  · rintro ⟨given, ⟨names, attributesListed, attributesAre⟩, canValidate, validatorIs,
      ⟨limits, onListed, onIs⟩, ⟨exceptions, exceptListed, exceptIs⟩, paramsAre, named⟩
    obtain ⟨namesOne, accepted⟩ := (canValidate_iff _).2 canValidate
    rw [paramsAre] at named
    have sound : complaints (splitParams attributes validator params) = [] := by
      rw [splitParams_eq, complaints_eq_nil_iff]
      exact ⟨⟨names, attributesListed⟩, accepted, ⟨limits, onListed⟩, ⟨exceptions, exceptListed⟩,
        named⟩
    rw [ofPieces, if_pos (Bool.and_eq_true_iff.2 ⟨given, namesOne⟩), ofParts, sound]
    simp only [splitParams_eq, nameList?_of_lists attributesListed, nameList?_of_lists onListed,
      nameList?_of_lists exceptListed, Option.getD_some]
    rw [← attributesAre, ← onIs, ← exceptIs, ← paramsAre, ← validatorIs]

/-- Pieces are read as one rule wherever they stand, or they are refused for one problem, which is
blamed on where they stand. Where they stand is only what the fault names, so the tests come out in
the same way everywhere. -/
theorem ofPieces_cases (attributes validator : Value) (params : Value.Table Value) :
    (∃ rule, Declares attributes validator params rule ∧
      ∀ declared, ofPieces declared attributes validator params = .ok rule) ∨
    ∃ problem, ∀ declared,
      ofPieces declared attributes validator params = .error (.declaration problem declared) := by
  by_cases complete : (attributes.truthy && namesValidator validator) = true
  · cases wrong : complaints (splitParams attributes validator params) with
    | nil =>
      have read (declared : Value) :=
        (show ofPieces declared attributes validator params = .ok _ by
          rw [ofPieces, if_pos complete, ofParts, wrong])
      exact Or.inl ⟨_, ofPieces_eq_ok_iff.1 (read null), read⟩
    | cons detail details =>
      exact Or.inr ⟨.malformedRule (detail :: details), fun declared => by
        rw [ofPieces, if_pos complete, ofParts, wrong]⟩
  · exact Or.inr ⟨.incompleteRule, fun declared => by rw [ofPieces, if_neg complete]⟩

end Rule

/-! ## Tables -/

/-- Steps for each item of a list go through exactly if each of them does. By induction on the list,
as the steps behind one that stops are not made. -/
theorem Outcome.exists_mapM_iff {α β : Type} {step : α → Outcome β} {items : List α} :
    (∃ values, items.mapM step = .ok values) ↔ ∀ item ∈ items, ∃ value, step item = .ok value := by
  induction items with
  | nil => exact ⟨fun _ => nofun, fun _ => ⟨[], rfl⟩⟩
  | cons first rest inductionHypothesis =>
    rw [List.mapM_cons, List.forall_mem_cons, ← inductionHypothesis]
    constructor
    · rintro ⟨values, whole⟩
      obtain ⟨value, here, others⟩ := bind_eq_ok_iff.1 whole
      obtain ⟨later, passed, -⟩ := bind_eq_ok_iff.1 others
      exact ⟨⟨value, here⟩, later, passed⟩
    · rintro ⟨⟨value, here⟩, later, passed⟩
      rw [here, passed]
      exact ⟨value :: later, rfl⟩

namespace Value

/-- Two items in a row, the first of them a name. -/
def IsPair (value : Value) : Prop :=
  ∃ name content, value.items? = some [name, content] ∧ name.IsName

/-- A map, or pairs in a row. -/
def IsTable : Value → Prop
  | map _ => True
  | value => ∃ items, value.items? = some items ∧ ∀ item ∈ items, item.IsPair

/-- A pair can be taken for an entry, and nothing else can. Two items alone are not enough, since
the first becomes a key. -/
theorem exists_asPair_iff (value : Value) :
    (∃ entry, value.asPair = .ok entry) ↔ value.IsPair := by
  constructor
  · rintro ⟨entry, taken⟩
    unfold asPair at taken
    split at taken
    · cases taken
    · rename_i name content items
      obtain ⟨same, named, -⟩ := Outcome.bind_eq_ok_iff.1 taken
      exact ⟨name, content, items, (isName_of_asName named).2⟩
    · cases taken
  · rintro ⟨name, content, items, named⟩
    refine ⟨(name, content), ?_⟩
    rw [asPair, items]
    simp only [asName_of_isName named, bind, Except.bind, pure, Except.pure]

/-- A table can be taken for a map, and nothing else can. -/
theorem exists_toTable_iff (value : Value) :
    (∃ table, value.toTable = .ok table) ↔ value.IsTable := by
  unfold toTable IsTable
  split
  · exact ⟨fun _ => trivial, fun _ => ⟨_, rfl⟩⟩
  · simp only [← exists_asPair_iff, ← Outcome.exists_mapM_iff, items]
    constructor
    · rintro ⟨table, taken⟩
      obtain ⟨listed, gone, others⟩ := Outcome.bind_eq_ok_iff.1 taken
      obtain ⟨entries, paired, -⟩ := Outcome.bind_eq_ok_iff.1 others
      split at gone
      · obtain rfl := Except.ok.inj gone
        exact ⟨_, ‹_›, entries, paired⟩
      · cases gone
    · rintro ⟨listed, found, entries, paired⟩
      refine ⟨OrderedMap.ofList entries, ?_⟩
      simp only [found, bind, Except.bind, paired, pure, Except.pure]

end Value

/-! ## Where a declaration that is refused is blamed -/

namespace Rule

open Value (null text list tuple map)

/-- What is read from a declaration is a rule or a problem that is blamed on the declaration. -/
def ReadOrBlamed (declared : Value) (outcome : Outcome Rule) : Prop :=
  (∃ rule, outcome = .ok rule) ∨ ∃ problem, outcome = .error (.declaration problem declared)

/-- What stands under `params` of a map. -/
def ownParams (entries : List (Value × Value)) : Value :=
  (entries.lookup (text "params")).getD null

/-- A map in which something stands under `params` that is no table. -/
def HasStrayParams : Value → Prop
  | map entries => (ownParams entries).truthy = true ∧ ¬(ownParams entries).IsTable
  | _ => False

/-- Pieces are read or blamed on where they stand. -/
theorem readOrBlamed_ofPieces (declared attributes validator : Value)
    (params : Value.Table Value) :
    ReadOrBlamed declared (ofPieces declared attributes validator params) := by
  rcases ofPieces_cases attributes validator params with ⟨rule, -, read⟩ | ⟨problem, refused⟩
  · exact Or.inl ⟨rule, read declared⟩
  · exact Or.inr ⟨problem, refused declared⟩

/-- A sequence is read or blamed. Two items are pieces, and three are if the last is a map; any
other sequence is blamed. -/
theorem readOrBlamed_ofSequence (declared : Value) (items : List Value) :
    ReadOrBlamed declared (ofSequence declared items) := by
  unfold ofSequence
  split
  · exact readOrBlamed_ofPieces _ _ _ _
  · exact readOrBlamed_ofPieces _ _ _ _
  · exact Or.inr ⟨_, rfl⟩
  · exact Or.inr ⟨_, rfl⟩

/-- A map is read or blamed if nothing stands under its `params` or a table does. What stands there
is taken first, and it is the only part that could stop the reading without blaming anything. -/
theorem readOrBlamed_ofMap (declared : Value) {entries : List (Value × Value)}
    (regular : (ownParams entries).truthy = true → (ownParams entries).IsTable) :
    ReadOrBlamed declared (ofMap declared ⟨entries⟩) := by
  have given : (OrderedMap.get? ⟨entries⟩ (text "params")).getD null = ownParams entries := rfl
  by_cases present : (ownParams entries).truthy = true
  · obtain ⟨table, taken⟩ := (Value.exists_toTable_iff _).2 (regular present)
    simp only [ofMap, given, present, ↓reduceIte, taken, bind, Except.bind]
    exact readOrBlamed_ofPieces _ _ _ _
  · simp only [ofMap, given, present, Bool.false_eq_true, ↓reduceIte, bind, Except.bind, pure,
      Except.pure]
    exact readOrBlamed_ofPieces _ _ _ _

/-- A map stops the reading if what stands under its `params` is no table. -/
theorem ofMap_of_stray (declared : Value) {entries : List (Value × Value)}
    (present : (ownParams entries).truthy = true) (isNone : ¬(ownParams entries).IsTable) :
    ∃ fault, ofMap declared ⟨entries⟩ = .error fault ∧ fault.OfConversion := by
  have given : (OrderedMap.get? ⟨entries⟩ (text "params")).getD null = ownParams entries := rfl
  cases taken : (ownParams entries).toTable with
  | ok table => exact absurd ((Value.exists_toTable_iff _).1 ⟨table, taken⟩) isNone
  | error fault =>
    refine ⟨fault, ?_, Value.faultsIn_toTable _ fault taken⟩
    simp only [ofMap, given, present, ↓reduceIte, taken, bind, Except.bind]

/-- Any value is read as a rule or refused for a problem that is blamed on it, except for a map in
which something stands under `params` that is no table: that one stops the reading with a fault that
blames nothing.

Proof: by the shape of the value. A map is the only shape of which a part is converted before the
pieces are looked at, and looking at the pieces blames the declaration. -/
theorem declaration_blamed_exact (declared : Value) :
    (HasStrayParams declared →
      ∃ fault, ofDeclaration declared = .error fault ∧ fault.OfConversion) ∧
    (¬HasStrayParams declared → ReadOrBlamed declared (ofDeclaration declared)) := by
  cases declared with
  | map entries =>
    constructor
    · rintro ⟨present, isNone⟩
      exact ofMap_of_stray _ present isNone
    · intro regular
      refine readOrBlamed_ofMap _ fun present => ?_
      by_cases isTable : (ownParams entries).IsTable
      · exact isTable
      · exact absurd ⟨present, isTable⟩ regular
  | rule ready => exact ⟨False.elim, fun _ => Or.inl ⟨ready, rfl⟩⟩
  | list items | tuple items =>
    exact ⟨False.elim, fun _ => readOrBlamed_ofSequence _ items⟩
  | null | bool | int | float | text | pattern | script | kind | validator | method =>
    exact ⟨False.elim, fun _ => Or.inr ⟨_, rfl⟩⟩

/-- Pairs under `params` make a table and are read; a row of letters makes none and stops the
reading. -/
theorem declaration_blamed_exact_params :
    let withParams (params : Value) : Value :=
      map [("attributes", "name"), ("validator", "string"), ("params", params)]
    ReadOrBlamed (withParams (list [tuple ["min_length", .int 2]]))
        (ofDeclaration (withParams (list [tuple ["min_length", .int 2]]))) ∧
      ∃ fault, ofDeclaration (withParams "abc") = .error fault ∧ fault.OfConversion := by
  intro withParams
  constructor
  · refine (declaration_blamed_exact _).2 ?_
    rintro ⟨-, isNone⟩
    refine isNone ⟨_, rfl, fun item present => ?_⟩
    obtain rfl := List.mem_singleton.1 present
    exact ⟨"min_length", .int 2, rfl, Value.isName_text _⟩
  · refine (declaration_blamed_exact _).1 ⟨rfl, ?_⟩
    rintro ⟨items, gone, arePairs⟩
    obtain rfl := Option.some.inj gone
    obtain ⟨name, content, single, -⟩ := arePairs "a" (List.mem_cons_self ..)
    cases single

/-- A number under `params` stops the reading of a declaration that is otherwise complete, and
nobody says which declaration it was. -/
theorem numeric_params_blame_nothing :
    let declared : Value := map [("attributes", "a"), ("validator", "required"), ("params", .int 5)]
    ofDeclaration declared = .error (.misuse (.notIterable "int")) ∧
      ¬ReadOrBlamed declared (ofDeclaration declared) := by
  intro declared
  have stops : ofDeclaration declared = .error (.misuse (.notIterable "int")) := rfl
  refine ⟨stops, ?_⟩
  rw [stops]
  rintro (⟨rule, read⟩ | ⟨problem, blamed⟩)
  · cases read
  · cases blamed

end Rule
end RecordValidation
