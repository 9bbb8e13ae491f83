import RecordValidation.Scenario.Resolution

/-!
# Names without repetitions

Descriptors and scenarios are collected by adding each name to the end of a list unless it is there.
What is collected that way is the list of names without its repetitions, each at the place of its
first occurrence: `insertNew_all_eq_distinct`. Collecting the same names again changes nothing, and
dropping the names that fail a test commutes with dropping repetitions.

Names need not be equal to be the same, so membership is membership up to sameness, and a test has
to give the same answer for names that are the same.
-/

namespace RecordValidation

/-- A value that can be a name. -/
def Value.IsName (value : Value) : Prop := value.unhashablePart? = none

instance (value : Value) : Decidable value.IsName :=
  inferInstanceAs (Decidable (value.unhashablePart? = none))

/-- A text can be a name. -/
@[simp] theorem Value.isName_text (name : String) : (Value.text name).IsName := rfl

/-- A value that can be a name is taken as it is. -/
theorem Value.asName_of_isName {value : Value} (named : value.IsName) :
    value.asName = .ok value := by
  have whole : value.unhashablePart? = none := named
  simp only [Value.asName, whole]

/-- A value that cannot be a name is refused as one. The fault names the type of the part that can
change. -/
theorem Value.asName_of_not_isName {value : Value} (unnamed : ¬value.IsName) :
    ∃ fault, value.asName = .error fault := by
  unfold IsName at unnamed
  unfold asName
  split
  · exact absurd ‹_› unnamed
  · exact ⟨_, rfl⟩

/-- A value that is taken as a name can be one, and is taken as it is. One that cannot be a name
would have been refused, so both directions follow from the two laws above. -/
theorem Value.isName_of_asName {value name : Value} (taken : value.asName = .ok name) :
    name = value ∧ value.IsName := by
  by_cases named : value.IsName
  · rw [asName_of_isName named] at taken
    exact ⟨(Except.ok.inj taken).symm, named⟩
  · obtain ⟨fault, refused⟩ := asName_of_not_isName named
    rw [refused] at taken
    cases taken

/-- Values that can be names are taken as they are.

Proof: by induction on the values; each passes on its own, and so do the rest. -/
theorem Value.asNames_of_isName {values : List Value} (named : ∀ value ∈ values, value.IsName) :
    Value.asNames values = .ok values := by
  induction values with
  | nil => rfl
  | cons value rest inductionHypothesis =>
    have first : value.asName = .ok value := asName_of_isName (named value (by simp))
    have others : Value.asNames rest = .ok rest :=
      inductionHypothesis fun other later => named other (List.mem_cons_of_mem _ later)
    simp only [Value.asNames] at others ⊢
    rw [List.mapM_cons, first, others]
    rfl

/-- Texts are taken as names as they are. -/
theorem Value.asNames_texts (names : List String) :
    Value.asNames (names.map .text) = .ok (names.map .text) := by
  apply asNames_of_isName
  intro value listed
  obtain ⟨name, -, rfl⟩ := List.mem_map.1 listed
  exact isName_text name

/-- A text is the same as a value only if the value is that text. The key of a text is a single atom
of a kind that no value but a text begins with; for floats the possible keys are tried one by
one. -/
theorem Value.text_beq_iff (name : String) (value : Value) :
    (Value.text name == value) = true ↔ value = .text name := by
  constructor
  · intro same
    have keys : [Value.Atom.text name] = value.key := (Value.beq_iff_key _ _).1 same
    cases value with
    | text other =>
      have equal : name = other := by simpa [Value.key] using keys
      exact equal ▸ rfl
    | float number =>
      simp only [Value.key, Value.numberKey] at keys
      split at keys
      · simp at keys
      · split at keys <;> simp at keys
    | null | bool | int | list | tuple | map | pattern | script | kind | validator | rule
    | method => simp [Value.key] at keys
  · rintro rfl
    simp

/-- A text is among values exactly if it is one of them. Sameness with a text is equality, so
membership up to sameness is membership. -/
theorem Value.contains_text (values : List Value) (name : String) :
    values.contains (.text name) = true ↔ Value.text name ∈ values := by
  rw [List.contains_iff_exists_mem_beq]
  constructor
  · rintro ⟨value, present, same⟩
    exact (Value.text_beq_iff name value).1 same ▸ present
  · intro present
    exact ⟨.text name, present, by simp⟩

/-- A value is among texts exactly if it is one of them. -/
theorem Value.contains_texts (names : List String) (value : Value) :
    (names.map Value.text).contains value = true ↔ ∃ name ∈ names, value = .text name := by
  rw [List.contains_iff_exists_mem_beq]
  constructor
  · rintro ⟨listed, present, same⟩
    obtain ⟨name, among, rfl⟩ := List.mem_map.1 present
    exact ⟨name, among, (Value.text_beq_iff name value).1 (BEq.symm same)⟩
  · rintro ⟨name, among, rfl⟩
    exact ⟨.text name, List.mem_map_of_mem among, by simp⟩

/-- The same names are among names that pass a test if they pass it themselves. A name that is the
same passes the test as well, so it does not matter which of them is there. -/
theorem Value.contains_filter (test : Value → Bool)
    (respects : ∀ a b : Value, (a == b) = true → test a = test b) (names : List Value)
    (name : Value) : (names.filter test).contains name = (names.contains name && test name) := by
  rw [Bool.eq_iff_iff, Bool.and_eq_true, List.contains_iff_exists_mem_beq,
    List.contains_iff_exists_mem_beq]
  constructor
  · rintro ⟨other, present, same⟩
    obtain ⟨among, passes⟩ := List.mem_filter.1 present
    exact ⟨⟨other, among, same⟩, respects name other same ▸ passes⟩
  · rintro ⟨⟨other, among, same⟩, passes⟩
    exact ⟨other, List.mem_filter.2 ⟨among, respects name other same ▸ passes⟩, same⟩

/-- Names that are related in their order stay so with a name behind them that all are related to.
The new last name comes behind every other, so it is the second one of each new pair. -/
theorem Value.pairwise_concat {related : Value → Value → Prop} {names : List Value} {last : Value}
    (held : names.Pairwise related) (before : ∀ name ∈ names, related name last) :
    (names ++ [last]).Pairwise related := by
  refine List.pairwise_append.2
    ⟨held, List.pairwise_singleton _ _, fun name present other isLast => ?_⟩
  obtain rfl := List.mem_singleton.1 isLast
  exact before name present

namespace Resolution

/-- Adding a name adds it and no other. If it is there already, what is the same as it is there too,
so that adding it does not show. -/
theorem contains_insertNew (names : List Value) (name other : Value) :
    (insertNew names name).contains other = (names.contains other || other == name) := by
  unfold insertNew
  split
  · rename_i present
    by_cases same : other == name
    · have also : names.contains other = true := by rw [List.contains_congr same, present]
      simp only [also, same, Bool.or_self]
    · simp [same]
  · simp [List.contains_append]

/-- Adding names adds them and no others. Each addition adds its own name, and the additions are put
together one after the other. -/
theorem contains_insertNew_all (added names : List Value) (other : Value) :
    (added.foldl insertNew names).contains other =
      (names.contains other || added.contains other) := by
  induction added generalizing names with
  | nil => simp
  | cons name rest inductionHypothesis =>
    rw [List.foldl_cons, inductionHypothesis, contains_insertNew, List.contains_cons, Bool.or_assoc]

/-- Adding names that are all there changes nothing. Each step finds its name and leaves the list
alone, so the later steps find theirs in the same list. -/
theorem insertNew_all_of_contained (added names : List Value)
    (held : ∀ name ∈ added, names.contains name = true) : added.foldl insertNew names = names := by
  induction added with
  | nil => rfl
  | cons name rest inductionHypothesis =>
    have present : insertNew names name = names := if_pos (held name (by simp))
    rw [List.foldl_cons, present]
    exact inductionHypothesis fun other later => held other (List.mem_cons_of_mem _ later)

/-- Adding the same names once more changes nothing. -/
theorem insertNew_all_again (added names : List Value) :
    added.foldl insertNew (added.foldl insertNew names) = added.foldl insertNew names := by
  apply insertNew_all_of_contained
  intro name present
  have among : added.contains name = true :=
    List.contains_iff_exists_mem_beq.2 ⟨name, present, BEq.rfl⟩
  rw [contains_insertNew_all, among, Bool.or_true]

/-- What adding names appends is those that are new, without their repetitions.

Proof: by induction on the added names. One that is there is passed over on both sides. One that is
new goes to the end, and the rest are then compared with it as well, which is what dropping its
repetitions from them does. -/
theorem insertNew_all_eq (added names : List Value) :
    added.foldl insertNew names =
      names ++ Value.distinct (added.filter fun name => !names.contains name) := by
  induction added generalizing names with
  | nil => simp [Value.distinct]
  | cons name rest inductionHypothesis =>
    rw [List.foldl_cons, inductionHypothesis]
    by_cases present : names.contains name = true
    · simp only [insertNew, present, ↓reduceIte, Bool.not_true, Bool.false_eq_true,
        not_false_eq_true, List.filter_cons_of_neg]
    · have later : (rest.filter fun other => !(names ++ [name]).contains other) =
          (rest.filter fun other => !names.contains other).filter fun other => !other == name := by
        rw [List.filter_filter]
        congr 1
        funext other
        simp [List.contains_append, Bool.and_comm]
      simp only [insertNew, present, Bool.false_eq_true, ↓reduceIte, Bool.not_false,
        List.filter_cons_of_pos, Value.distinct, List.eraseDups_cons, later, List.append_assoc,
        List.singleton_append]

/-- Names collected from nothing are the names without repetitions. -/
theorem insertNew_all_eq_distinct (added : List Value) :
    added.foldl insertNew [] = Value.distinct added := by
  rw [insertNew_all_eq, List.nil_append, List.filter_eq_self.2]
  simp

/-- Names collected after a first one are all of them without repetitions. -/
theorem insertNew_all_singleton (first : Value) (added : List Value) :
    added.foldl insertNew [first] = Value.distinct (first :: added) := by
  rw [insertNew_all_eq, Value.distinct, Value.distinct, List.eraseDups_cons]
  simp

/-- Adding names keeps a list without repetitions free of them. A name goes to the end only if none
of the names there is the same. -/
theorem pairwise_insertNew_all (added names : List Value)
    (distinct : names.Pairwise fun a b => (a == b) = false) :
    (added.foldl insertNew names).Pairwise fun a b => (a == b) = false := by
  induction added generalizing names with
  | nil => exact distinct
  | cons name rest inductionHypothesis =>
    apply inductionHypothesis
    unfold insertNew
    split
    · exact distinct
    · rename_i new
      refine Value.pairwise_concat distinct fun other present => ?_
      rw [Bool.eq_false_iff]
      intro same
      exact new (List.contains_iff_exists_mem_beq.2 ⟨other, present, BEq.symm same⟩)

/-- What names were added to and the added names are all that there is afterwards. A step leaves the
list or puts its own name behind it, so equal members, not only like ones, come from one of the
two. -/
theorem mem_insertNew_all {added names : List Value} {name : Value}
    (present : name ∈ added.foldl insertNew names) : name ∈ names ∨ name ∈ added := by
  induction added generalizing names with
  | nil => exact Or.inl present
  | cons first rest inductionHypothesis =>
    rcases inductionHypothesis present with before | later
    · unfold insertNew at before
      split at before
      · exact Or.inl before
      · rcases List.mem_append.1 before with old | last
        · exact Or.inl old
        · exact Or.inr (List.mem_singleton.1 last ▸ List.mem_cons_self)
    · exact Or.inr (List.mem_cons_of_mem _ later)

/-- Adding a name that passes a test commutes with dropping the names that fail it. Whether the name
is there does not change, because a name that is the same passes the test with it. -/
theorem insertNew_filter_of_passes (test : Value → Bool)
    (respects : ∀ a b : Value, (a == b) = true → test a = test b) (names : List Value)
    {name : Value} (passes : test name = true) :
    insertNew (names.filter test) name = (insertNew names name).filter test := by
  have known : (names.filter test).contains name = names.contains name := by
    rw [Value.contains_filter test respects, passes, Bool.and_true]
  unfold insertNew
  rw [known]
  split
  · rfl
  · rw [List.filter_append, List.filter_cons_of_pos passes, List.filter_nil]

/-- Dropping the names that fail a test before or after names are added comes to the same.

Proof: by induction on the added names. One that fails leaves no trace on either side; one that
passes is compared with the same names, because a name that is the same passes too. -/
theorem insertNew_all_filter (test : Value → Bool)
    (respects : ∀ a b : Value, (a == b) = true → test a = test b) (added names : List Value) :
    (added.filter test).foldl insertNew (names.filter test) =
      (added.foldl insertNew names).filter test := by
  induction added generalizing names with
  | nil => rfl
  | cons name rest inductionHypothesis =>
    by_cases passes : test name = true
    · rw [List.filter_cons_of_pos passes, List.foldl_cons, List.foldl_cons,
        insertNew_filter_of_passes test respects names passes, inductionHypothesis]
    · have untouched : (insertNew names name).filter test = names.filter test := by
        unfold insertNew
        split
        · rfl
        · rw [List.filter_append, List.filter_cons_of_neg passes, List.filter_nil, List.append_nil]
      rw [List.filter_cons_of_neg passes, List.foldl_cons, ← inductionHypothesis, untouched]

end Resolution

namespace Value

open Resolution

/-- The same names are among names and among them without repetitions. -/
@[simp] theorem contains_distinct (names : List Value) (name : Value) :
    (distinct names).contains name = names.contains name := by
  rw [← insertNew_all_eq_distinct, contains_insertNew_all]
  simp

/-- A name that comes after names goes to the end of them unless it is there. -/
theorem distinct_concat (names : List Value) (name : Value) :
    distinct (names ++ [name]) = insertNew (distinct names) name := by
  rw [← insertNew_all_eq_distinct, ← insertNew_all_eq_distinct, List.foldl_append]
  rfl

/-- Names without repetitions are all unlike each other. -/
theorem pairwise_distinct (names : List Value) :
    (distinct names).Pairwise fun a b => (a == b) = false := by
  rw [← insertNew_all_eq_distinct]
  exact pairwise_insertNew_all names [] List.Pairwise.nil

/-- Dropping repetitions brings in nothing. -/
theorem mem_of_mem_distinct {names : List Value} {name : Value} (present : name ∈ distinct names) :
    name ∈ names := by
  rw [← insertNew_all_eq_distinct] at present
  rcases mem_insertNew_all present with none | given
  · simp at none
  · exact given

/-- Dropping the names that fail a test before or after repetitions are dropped comes to the same.
Both are collected by adding, where it makes no difference whether a name that fails is dropped
before or after. -/
theorem distinct_filter (test : Value → Bool)
    (respects : ∀ a b : Value, (a == b) = true → test a = test b) (names : List Value) :
    distinct (names.filter test) = (distinct names).filter test := by
  rw [← insertNew_all_eq_distinct, ← insertNew_all_eq_distinct]
  exact insertNew_all_filter test respects names []

/-- The texts of names without their repetitions are the texts of the names without theirs.

Proof: by recursion on the names. What is left of the others once the repetitions of the first are
dropped is no longer than they were, and two texts are the same only if the names are. -/
theorem distinct_texts : (names : List String) →
    distinct (names.map text) = names.eraseDups.map text
  | [] => by simp [distinct]
  | name :: rest => by
    have others := distinct_texts (rest.filter fun other => !other == name)
    rw [distinct] at others ⊢
    rw [List.map_cons, List.eraseDups_cons, List.eraseDups_cons, List.map_cons, List.filter_map,
      ← others]
    simp only [Function.comp_def, text_beq_text]
termination_by names => names.length
decreasing_by exact Nat.lt_succ_of_le (List.length_filter_le _ rest)

/-- Names without repetitions have none. As texts they are unlike each other, which for texts is
being unequal. -/
theorem nodup_eraseDups (names : List String) : names.eraseDups.Nodup := by
  have unlike := pairwise_distinct (names.map text)
  rw [distinct_texts, List.pairwise_map] at unlike
  refine unlike.imp fun different same => ?_
  simp [same] at different

/-- Names that are unlike each other stay as they are without repetitions. No later name is the same
as the first one, so nothing of the rest is dropped on its behalf, and the rest is unlike itself. -/
theorem eraseDups_of_pairwise {α : Type} [BEq α] [EquivBEq α] {names : List α}
    (unlike : names.Pairwise fun a b => (a == b) = false) : names.eraseDups = names := by
  induction names with
  | nil => rfl
  | cons name rest inductionHypothesis =>
    obtain ⟨apart, restUnlike⟩ := List.pairwise_cons.1 unlike
    have others : (rest.filter fun other => !other == name) = rest := by
      rw [List.filter_eq_self]
      intro other later
      rw [BEq.comm, apart other later]
      rfl
    rw [List.eraseDups_cons, others, inductionHypothesis restUnlike]

/-- Names that have no repetitions stay as they are without them. -/
theorem eraseDups_of_nodup {names : List String} (unlike : names.Nodup) :
    names.eraseDups = names :=
  eraseDups_of_pairwise (unlike.imp fun different => by simpa using different)

/-- Dropping repetitions once more drops nothing. -/
theorem distinct_distinct (names : List Value) : distinct (distinct names) = distinct names :=
  eraseDups_of_pairwise (pairwise_distinct names)

/-- There are names without repetitions only if there are names. -/
@[simp] theorem distinct_eq_nil_iff (names : List Value) : distinct names = [] ↔ names = [] := by
  cases names with
  | nil => simp [distinct]
  | cons name rest => simp [distinct, List.eraseDups_cons]

end Value

end RecordValidation
