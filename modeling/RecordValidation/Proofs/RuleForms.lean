import RecordValidation.Proofs.OrderedMaps
import RecordValidation.Proofs.RuleReading

/-!
# The forms in which a rule is declared

Attributes, a validator and parameters can be declared as a tuple, as a list, as a map that holds
the parameters as one of its entries, and as a map that holds them beside the other two.
`forms_agree` says that the four are read alike, and that a rule that is read is canonical
(`Rule.IsCanonical`): its names are listed without repetitions and its limits stand nowhere else, so
that declaring it by its own parts (`Rule.redeclared`) gives it back.

A rule can also be declared by a call with keywords (`Rule.declareNamed`). `declareNamed_exact` says
what the call makes of its keywords: it reads them as if nothing had been given under `except`.
Scenarios given under `on` and `except_` are kept; a keyword `except`, which the call takes for one
of the parameters, is written over.
-/

namespace RecordValidation

namespace Rule

open Value (null text list tuple map)

variable {attributes validator : Value} {params : Value.Table Value} {rule : Rule}

/-! ## Parameters that are read alike -/

/-- What is the same as the name of a limit is the name of a limit. Names are compared as values
are, so the test is stated for whatever is the same. -/
theorem limitNames_contains_of_beq {name : Value} (isLimit : name ∈ limitNames) (other : Value)
    (same : (name == other) = true) : (!limitNames.contains other) = false := by
  rw [Bool.not_eq_false']
  exact List.contains_iff_exists_mem_beq.2 ⟨name, isLimit, BEq.symm same⟩

/-- Parameters that limit scenarios alike and are otherwise the same declare the same. -/
theorem ofPieces_congr (declared : Value) {others : Value.Table Value}
    (sameOn : (params.get? "on").getD null = (others.get? "on").getD null)
    (sameExcept : excepted params = excepted others)
    (sameParams : params.entries.filter (fun entry => !limitNames.contains entry.1) =
      others.entries.filter fun entry => !limitNames.contains entry.1) :
    ofPieces declared attributes validator params =
      ofPieces declared attributes validator others := by
  simp only [ofPieces, splitParams_eq, sameOn, sameExcept, sameParams]

/-! ## Four forms of one declaration -/

/-- The forms in which attributes, a validator and parameters can be declared. -/
def forms (attributes validator : Value) (params : Value.Table Value) : List Value := [
  tuple [attributes, validator, map params.entries],
  list [attributes, validator, map params.entries],
  map [("attributes", attributes), ("validator", validator), ("params", map params.entries)],
  map (("attributes", attributes) :: ("validator", validator) :: params.entries)]

/-- The names under which a map holds what is not one of its parameters. -/
def pieceNames : List Value := [text "attributes", text "validator", text "params"]

/-- A map that holds the parameters as one of its entries is read as its pieces. An empty map of
parameters counts as false and is passed over, which comes to the same. -/
theorem ofMap_nested (declared : Value) :
    ofMap declared
        ⟨[("attributes", attributes), ("validator", validator), ("params", map params.entries)]⟩ =
      ofPieces declared attributes validator params := by
  obtain ⟨entries⟩ := params
  cases entries with
  | nil => rfl
  | cons entry rest => rfl

/-- A map that holds the parameters beside the other two is read as its pieces. What stands beside
the two is what is left if they are taken out, and these names are none of the parameters. -/
theorem ofMap_flat (declared : Value)
    (distinct : params.entries.Pairwise fun a b => (a.1 == b.1) = false)
    (unreserved : ∀ name ∈ pieceNames, params.contains name = false) :
    ofMap declared ⟨("attributes", attributes) :: ("validator", validator) :: params.entries⟩ =
      ofPieces declared attributes validator params := by
  have own : params.get? "params" = none := by
    have absent := unreserved "params" (by simp [pieceNames])
    rwa [OrderedMap.contains, Option.isSome_eq_false_iff, Option.isNone_iff_eq_none] at absent
  -- The pieces stand before the parameters and are taken out again, which leaves the parameters.
  have beside : ((params.erase "params").erase "attributes").erase "validator" = params := by
    rw [params.erase_of_not_contains (unreserved "params" (by simp [pieceNames])),
      params.erase_of_not_contains (unreserved "attributes" (by simp [pieceNames])),
      params.erase_of_not_contains (unreserved "validator" (by simp [pieceNames]))]
  have written : OrderedMap.empty.insertAll params.entries = params :=
    congrArg OrderedMap.mk
      (OrderedMap.empty.entries_insertAll_new params.entries distinct fun _ _ => rfl)
  calc
    _ = (do
          let given := (params.get? "params").getD null
          let first ← if given.truthy then given.toTable else pure .empty
          ofPieces declared attributes validator (first.insertAll
            (((params.erase "params").erase "attributes").erase "validator").entries)) := rfl
    _ = ofPieces declared attributes validator (OrderedMap.empty.insertAll params.entries) := by
        rw [own, beside]
        rfl
    _ = ofPieces declared attributes validator params := by rw [written]

/-- Each form is read as its pieces. Only the last form needs the parameters to be unlike each other
and unlike the names of pieces. -/
theorem ofDeclaration_of_mem_forms {form : Value}
    (distinct : params.entries.Pairwise fun a b => (a.1 == b.1) = false)
    (unreserved : ∀ name ∈ pieceNames, params.contains name = false)
    (isForm : form ∈ forms attributes validator params) :
    ofDeclaration form = ofPieces form attributes validator params := by
  simp only [forms, List.mem_cons, List.not_mem_nil, or_false] at isForm
  rcases isForm with rfl | rfl | rfl | rfl
  · rfl
  · rfl
  · exact ofMap_nested _
  · exact ofMap_flat _ distinct unreserved

/-! ## Rules that were read -/

/-- A rule whose names are texts without repetitions and none of whose parameters limits
scenarios. -/
structure IsCanonical (rule : Rule) : Prop where
  attributes : ∃ names : List String, names ≠ [] ∧ names.Nodup ∧
    rule.attributes = list (names.map text)
  canValidate : CanValidate rule.validator
  on : ∃ names : List String, names.Nodup ∧ rule.on = list (names.map text)
  except : ∃ names : List String, names.Nodup ∧ rule.except = list (names.map text)
  unlimited : ∀ entry ∈ rule.params, limitNames.contains entry.1 = false
  named : ∀ entry ∈ rule.params, entry.1.text?.isSome = true

/-- The declaration of a rule by its own parts, its limits among the parameters. -/
def redeclared (rule : Rule) : Value :=
  tuple [rule.attributes, rule.validator,
    map (((OrderedMap.mk rule.params).insert "on" rule.on).insert "except" rule.except).entries]

/-- What counts as true and lists names lists one at least. -/
theorem ne_nil_of_lists {value : Value} {names : List String} (lists : value.Lists names)
    (given : value.truthy = true) : names.eraseDups ≠ [] := by
  cases lists with
  | absent => cases given
  | single name => simp [List.eraseDups_cons]
  | list names | tuple names =>
    cases names with
    | nil => cases given
    | cons name rest => simp [List.eraseDups_cons]

/-- What is declared is canonical. What made the names was taking repetitions out, and the limits
were taken out of the parameters. -/
theorem Declares.isCanonical (declares : Declares attributes validator params rule) :
    IsCanonical rule := by
  obtain ⟨given, ⟨names, listed, attributesAre⟩, canValidate, validatorIs, ⟨limits, -, onIs⟩,
    ⟨exceptions, -, exceptIs⟩, paramsAre, named⟩ := declares
  refine ⟨⟨_, ne_nil_of_lists listed given, Value.nodup_eraseDups names, attributesAre⟩,
    validatorIs ▸ canValidate, ⟨_, Value.nodup_eraseDups limits, onIs⟩,
    ⟨_, Value.nodup_eraseDups exceptions, exceptIs⟩, ?_, named⟩
  intro entry present
  rw [paramsAre] at present
  simpa using (List.mem_filter.1 present).2

/-- Names without repetitions are listed by the list of their texts, which is what is made of
them. -/
theorem lists_of_nodup {names : List String} (unlike : names.Nodup) :
    ∃ listed, (list (names.map text)).Lists listed ∧
      list (names.map text) = list (listed.eraseDups.map text) :=
  ⟨names, .list names, by rw [Value.eraseDups_of_nodup unlike]⟩

/-- A canonical rule is declared by its own parts. The limits are written to parameters that have
none, so they are read as they were written and the others stay. -/
theorem IsCanonical.declares (canonical : IsCanonical rule) :
    Declares rule.attributes rule.validator
      (((OrderedMap.mk rule.params).insert "on" rule.on).insert "except" rule.except) rule := by
  obtain ⟨⟨names, some, unlike, attributesAre⟩, canValidate, ⟨limits, limitsUnlike, onIs⟩,
    ⟨exceptions, exceptionsUnlike, exceptIs⟩, unlimited, named⟩ := canonical
  constructor
  case given =>
    cases names with
    | nil => exact absurd rfl some
    | cons name rest => rw [attributesAre]; rfl
  case attributes => rw [attributesAre]; exact lists_of_nodup unlike
  case canValidate => exact canValidate
  case validator => rfl
  case on =>
    have given : (((OrderedMap.mk rule.params).insert "on" rule.on).insert "except"
        rule.except).get? "on" = rule.on := by
      simp [OrderedMap.get?_insert]
    rw [given, onIs]
    exact lists_of_nodup limitsUnlike
  case except =>
    have given : excepted (((OrderedMap.mk rule.params).insert "on" rule.on).insert "except"
        rule.except) = rule.except := by
      simp [excepted, OrderedMap.get?_insert, exceptIs]
    rw [given, exceptIs]
    exact lists_of_nodup exceptionsUnlike
  case params =>
    rw [OrderedMap.filter_insert _ _ (limitNames_contains_of_beq (by simp [limitNames])),
      OrderedMap.filter_insert _ _ (limitNames_contains_of_beq (by simp [limitNames]))]
    refine (List.filter_eq_self.2 fun entry present => ?_).symm
    rw [unlimited entry present]
    rfl
  case named => exact named

/-- The forms in which a rule can be declared are read alike: all of them as one rule, or all of
them are refused for one problem, each blamed itself. A rule that is read is what the pieces
declare, the first occurrence deciding the place of each name; it is canonical, and declared by its
own parts it is read as itself.

Proof: each form is read as its pieces, and what pieces declare does not depend on the form. What
is declared has names without repetitions, so making such names of them changes nothing. -/
theorem forms_agree (attributes validator : Value)
    (distinct : params.entries.Pairwise fun a b => (a.1 == b.1) = false)
    (unreserved : ∀ name ∈ pieceNames, params.contains name = false) :
    ((∃ rule, ∀ form ∈ forms attributes validator params, ofDeclaration form = .ok rule) ∨
      ∃ problem, ∀ form ∈ forms attributes validator params,
        ofDeclaration form = .error (.declaration problem form)) ∧
    ∀ form ∈ forms attributes validator params, ∀ rule, ofDeclaration form = .ok rule →
      Declares attributes validator params rule ∧ IsCanonical rule ∧
        ofDeclaration (redeclared rule) = .ok rule := by
  constructor
  · rcases ofPieces_cases attributes validator params with ⟨rule, -, read⟩ | ⟨problem, refused⟩
    · refine Or.inl ⟨rule, fun form isForm => ?_⟩
      rw [ofDeclaration_of_mem_forms distinct unreserved isForm, read form]
    · refine Or.inr ⟨problem, fun form isForm => ?_⟩
      rw [ofDeclaration_of_mem_forms distinct unreserved isForm, refused form]
  · intro form isForm rule read
    rw [ofDeclaration_of_mem_forms distinct unreserved isForm] at read
    have declares := ofPieces_eq_ok_iff.1 read
    exact ⟨declares, declares.isCanonical, ofPieces_eq_ok_iff.2 declares.isCanonical.declares⟩

/-- A rule for a name that is given twice, with the scenarios it is limited to among the other
parameters. -/
theorem forms_agree_name :
    let params : Value.Table Value :=
      ⟨[("on", list ["import", "edit", "import"]), ("max_length", .int 20), ("except_", "draft")]⟩
    let rule : Rule :=
      { attributes := list ["name"], validator := "string", on := list ["import", "edit"]
        except := list ["draft"], params := [("max_length", .int 20)] }
    (∀ form ∈ forms (list ["name", "name"]) "string" params, ofDeclaration form = .ok rule) ∧
      IsCanonical rule ∧ ofDeclaration (redeclared rule) = .ok rule := by
  intro params rule
  have distinct : params.entries.Pairwise fun a b => (a.1 == b.1) = false := by
    simp [params]
  have unreserved : ∀ name ∈ pieceNames, params.contains name = false := by
    simp [pieceNames, params, OrderedMap.contains, OrderedMap.get?, List.lookup_cons]
  have positional : tuple [list ["name", "name"], "string", map params.entries] ∈
      forms (list ["name", "name"]) "string" params := List.mem_cons_self
  have read : ofDeclaration (tuple [list ["name", "name"], "string", map params.entries]) =
      .ok rule := rfl
  obtain ⟨⟨found, alike⟩ | ⟨problem, refused⟩, readBack⟩ :=
    forms_agree (list ["name", "name"]) "string" distinct unreserved
  · have same : found = rule := Except.ok.inj ((alike _ positional).symm.trans read)
    rw [same] at alike
    obtain ⟨-, canonical, again⟩ := readBack _ positional rule read
    exact ⟨alike, canonical, again⟩
  · rw [refused _ positional] at read
    cases read

/-! ## Keywords of a call -/

/-- The rule that a call with keywords declares. What is given by the keywords `on` and `except_`
limits the scenarios; the other keywords are taken for parameters. A call takes keywords that are
texts, and none called as its first two arguments are; what is said of it here holds of any. -/
def declareNamed (attributes validator : Value) (keywords : Value.Table Value) : Outcome Rule :=
  declare attributes validator ((keywords.get? "on").getD null)
    ((keywords.get? "except_").getD null) ((keywords.erase "on").erase "except_")

/-- Two readings give one rule, or both are refused for one problem. -/
def Agree (reading other : Outcome Rule) : Prop :=
  (∃ rule, reading = .ok rule ∧ other = .ok rule) ∨
    ∃ problem blamed otherBlamed, reading = .error (.declaration problem blamed) ∧
      other = .error (.declaration problem otherBlamed)

/-- A value mentions a scenario if it lists it among others. -/
def Mentions (value : Value) (scenario : String) : Prop :=
  ∃ names, value.Lists names ∧ scenario ∈ names

/-- What mentions a scenario are the names that a value lists, in whichever way it is taken to list
names. A value may list names in two ways, as a text may be one of a list; what is made of it is the
same, and has the same names. -/
theorem mentions_iff {value : Value} {names : List String} (lists : value.Lists names)
    (scenario : String) : Mentions value scenario ↔ scenario ∈ names := by
  constructor
  · rintro ⟨others, othersListed, present⟩
    have sameTexts : others.eraseDups.map text = names.eraseDups.map text :=
      Option.some.inj ((nameList?_of_lists othersListed).symm.trans (nameList?_of_lists lists))
    have same : others.eraseDups = names.eraseDups :=
      (List.map_inj_right fun _ _ => Value.text.inj).1 sameTexts
    rwa [← List.mem_eraseDups, ← same, List.mem_eraseDups]
  · exact fun present => ⟨names, lists, present⟩

/-- What is made of a value that lists names mentions the same. -/
theorem mentions_listed {value listed : Value} (scenario : String)
    (made : ∃ names, value.Lists names ∧ listed = list (names.eraseDups.map text)) :
    Mentions listed scenario ↔ Mentions value scenario := by
  obtain ⟨names, lists, rfl⟩ := made
  rw [mentions_iff lists, mentions_iff (.list _), List.mem_eraseDups]

/-- Pieces that are read alike in every place are read alike in any two places. -/
theorem agree_of_ofPieces {others : Value.Table Value} (declared otherDeclared : Value)
    (same : ∀ place, ofPieces place attributes validator params =
      ofPieces place attributes validator others) :
    Agree (ofPieces declared attributes validator params)
      (ofPieces otherDeclared attributes validator others) := by
  rw [same]
  rcases ofPieces_cases attributes validator others with ⟨rule, -, read⟩ | ⟨problem, refused⟩
  · exact Or.inl ⟨rule, read declared, read otherDeclared⟩
  · exact Or.inr ⟨problem, declared, otherDeclared, refused declared, refused otherDeclared⟩

/-- Without scenarios under `except`, those under `except_` are left out. Nothing there and null
there are the same to a reader. -/
theorem excepted_of_null (nothing : (params.get? "except").getD null = null) :
    excepted params = (params.get? "except_").getD null := by
  unfold excepted
  split
  · rfl
  · rfl
  · rename_i given unlike present
    rw [present] at nothing
    exact absurd nothing unlike

/-- Scenarios that are written to `except` are left out, if there are none under `except_`. Null may
be written too, and then the other name is looked under, where nothing stands. -/
theorem excepted_insert (exceptions : Value) (absent : params.get? "except_" = none) :
    excepted (params.insert "except" exceptions) = exceptions := by
  by_cases nothing : exceptions = null
  · rw [excepted_of_null (by simp [OrderedMap.get?_insert, nothing]), OrderedMap.get?_insert]
    simp [absent, nothing]
  · simp [excepted, OrderedMap.get?_insert]

/-- What a call makes of its keywords declares what they declare without `except`. -/
theorem ofPieces_keywords (place : Value) (keywords : Value.Table Value) :
    ofPieces place attributes validator
        ((((keywords.erase "on").erase "except_").insert "on"
          ((keywords.get? "on").getD null)).insert "except"
            ((keywords.get? "except_").getD null)) =
      ofPieces place attributes validator (keywords.erase "except") := by
  have isLimit {name : Value} (among : name ∈ limitNames) := limitNames_contains_of_beq among
  -- The limits are taken out again as they were written, over whatever stood under `except`.
  apply ofPieces_congr
  · simp [OrderedMap.get?_insert, OrderedMap.get?_erase]
  · rw [excepted_insert _ (by simp [OrderedMap.get?_insert, OrderedMap.get?_erase]),
      excepted_of_null (by simp [OrderedMap.get?_erase])]
    simp [OrderedMap.get?_erase]
  · rw [OrderedMap.filter_insert _ _ (isLimit (by simp [limitNames])),
      OrderedMap.filter_insert _ _ (isLimit (by simp [limitNames])),
      OrderedMap.filter_erase _ (isLimit (by simp [limitNames])),
      OrderedMap.filter_erase _ (isLimit (by simp [limitNames])),
      OrderedMap.filter_erase _ (isLimit (by simp [limitNames]))]

/-- Keywords without scenarios under `except` declare the same with and without that keyword. -/
theorem ofPieces_erase_except (place : Value) {keywords : Value.Table Value}
    (nothing : (keywords.get? "except").getD null = null) :
    ofPieces place attributes validator (keywords.erase "except") =
      ofPieces place attributes validator keywords := by
  apply ofPieces_congr
  · simp [OrderedMap.get?_erase]
  · rw [excepted_of_null nothing, excepted_of_null (by simp [OrderedMap.get?_erase])]
    simp [OrderedMap.get?_erase]
  · rw [OrderedMap.filter_erase _ (limitNames_contains_of_beq (by simp [limitNames]))]

/-- A call with keywords is read as a tuple that holds them as parameters, all but `except`: both
give one rule, or both are refused for one problem. So if nothing is given under `except`, the call
and the tuple with all the keywords agree. The scenarios that the rule of a call is limited to are
those given under `on`, and those it leaves out are those given under `except_`.

Proof: the call writes its limits over what its keywords say under `on` and `except`. Taking the
limits out again gives them back, and drops a keyword `except` with them. -/
theorem declareNamed_exact (attributes validator : Value) (keywords : Value.Table Value) :
    Agree (declareNamed attributes validator keywords)
        (ofDeclaration (tuple [attributes, validator, map (keywords.erase "except").entries])) ∧
      ((keywords.get? "except").getD null = null →
        Agree (declareNamed attributes validator keywords)
          (ofDeclaration (tuple [attributes, validator, map keywords.entries]))) ∧
      ∀ rule, declareNamed attributes validator keywords = .ok rule → ∀ scenario,
        (Mentions rule.on scenario ↔ Mentions ((keywords.get? "on").getD null) scenario) ∧
        (Mentions rule.except scenario ↔
          Mentions ((keywords.get? "except_").getD null) scenario) := by
  refine ⟨?_, fun nothing => ?_, fun rule read scenario => ?_⟩
  · exact agree_of_ofPieces _ _ fun place => ofPieces_keywords place keywords
  · refine agree_of_ofPieces _ _ fun place => ?_
    rw [ofPieces_keywords, ofPieces_erase_except place nothing]
  · rw [declareNamed, declare, ofPieces_keywords] at read
    have declares := ofPieces_eq_ok_iff.1 read
    have on := mentions_listed scenario declares.on
    have except := mentions_listed scenario declares.except
    rw [excepted_of_null (by simp [OrderedMap.get?_erase])] at except
    simp only [OrderedMap.get?_erase] at on except
    exact ⟨on, except⟩

/-- A call with limits under `on` and `except_` agrees with the tuple, and keeps the scenario that
it leaves out. -/
theorem declareNamed_exact_import :
    let keywords : Value.Table Value :=
      ⟨[("on", list ["edit", "import"]), ("except_", "import"), ("message", "Missing")]⟩
    Agree (declareNamed "name" "required" keywords)
        (ofDeclaration (tuple ["name", "required", map keywords.entries])) ∧
      ∃ rule, declareNamed "name" "required" keywords = .ok rule ∧
        Mentions rule.except "import" := by
  intro keywords
  obtain ⟨-, agree, limits⟩ := declareNamed_exact "name" "required" keywords
  refine ⟨agree rfl, _, rfl, (limits _ rfl "import").2.2 ?_⟩
  exact ⟨["import"], .single "import", List.mem_singleton.2 rfl⟩

/-- A scenario given to a call by the keyword `except` is lost, while the tuple with the same
parameters leaves it out. -/
theorem except_keyword_lost :
    let keywords : Value.Table Value := ⟨[("except", "import")]⟩
    let called : Rule :=
      { attributes := list ["a"], validator := "required", on := list [], except := list []
        params := [] }
    let declared : Rule := { called with except := list ["import"] }
    declareNamed "a" "required" keywords = .ok called ∧ ¬Mentions called.except "import" ∧
      ofDeclaration (tuple ["a", "required", map keywords.entries]) = .ok declared ∧
        Mentions declared.except "import" := by
  intro keywords called declared
  refine ⟨rfl, fun mentioned => ?_, rfl, ["import"], .list ["import"], List.mem_singleton.2 rfl⟩
  exact List.not_mem_nil ((mentions_iff (.list []) "import").1 mentioned)

end Rule
end RecordValidation
