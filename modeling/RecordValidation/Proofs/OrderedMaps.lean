import RecordValidation.OrderedMap

/-!
# Laws of ordered maps

Writing entries one after the other sets the keys that are written (`get?_insertAll`) and, if they
were all there, adds none (`keys_insertAll`). In a map made of a list of keys, one value for each,
changing some of the keys changes exactly these (`alter_all`).

Keys are compared up to sameness, so the laws say which keys are unlike each other, and those that
need it ask for an equivalence.
-/

namespace RecordValidation

namespace OrderedMap

variable {κ β : Type} [BEq κ]

/-- The value of a key among entries made of keys, where keys that are the same have one value. The
look-up stops at the first key that is the same as the one looked for, whose value is the same
although the key need not be equal. -/
theorem lookup_map (keys : List κ) (value : κ → β) (k : κ)
    (respects : ∀ a b : κ, (a == b) = true → value a = value b) :
    (keys.map fun key => (key, value key)).lookup k =
      if keys.contains k then some (value k) else none := by
  induction keys with
  | nil => simp
  | cons key rest inductionHypothesis =>
    by_cases here : k == key
    · simp [List.lookup_cons, here, respects k key here]
    · have skipped : (k == key) = false := by simpa using here
      rw [List.map_cons, List.lookup_cons, skipped, List.contains_cons, skipped, Bool.false_or]
      exact inductionHypothesis

/-- A key is there exactly if it is the same as one of the keys. Looking up an entry compares its
key, and so does looking for a key among the keys, entry by entry. -/
theorem contains_keys (m : OrderedMap κ β) (k : κ) : m.keys.contains k = m.contains k := by
  obtain ⟨entries⟩ := m
  simp only [keys, contains, get?]
  induction entries with
  | nil => rfl
  | cons entry rest inductionHypothesis =>
    rw [List.map_cons, List.contains_cons, List.lookup_cons, inductionHypothesis]
    cases here : k == entry.1 <;> simp

/-- The value of a key in a map with every value changed. -/
theorem get?_mapValues {γ : Type} (f : β → γ) (m : OrderedMap κ β) (k : κ) :
    (m.mapValues f).get? k = (m.get? k).map f := by
  obtain ⟨entries⟩ := m
  simp only [mapValues, get?]
  induction entries with
  | nil => rfl
  | cons entry rest inductionHypothesis =>
    rw [List.map_cons, List.lookup_cons, List.lookup_cons, inductionHypothesis]
    cases k == entry.1 <;> rfl

omit [BEq κ] in
/-- Changing every value leaves the keys. -/
theorem keys_mapValues {γ : Type} (f : β → γ) (m : OrderedMap κ β) :
    (m.mapValues f).keys = m.keys := by
  simp only [keys, mapValues, List.map_map, Function.comp_def]

/-- Changing a key that is there adds none. The change finds the key where the look-up does and
leaves it as it was first written, and no entry is put at the end. -/
theorem keys_alter (m : OrderedMap κ β) {k : κ} (start : β) (change : β → β)
    (present : m.contains k = true) : (m.alter k start change).keys = m.keys := by
  obtain ⟨entries⟩ := m
  simp only [keys, contains, get?, alter] at present ⊢
  induction entries with
  | nil => simp at present
  | cons entry rest inductionHypothesis =>
    obtain ⟨other, value⟩ := entry
    by_cases here : k == other
    · simp [alterEntries, here]
    · have later : (rest.lookup k).isSome = true := by
        simpa [List.lookup_cons, here] using present
      simp only [alterEntries, here, Bool.false_eq_true, ↓reduceIte, List.map_cons,
        inductionHypothesis later]

/-- Writing to a key that is there adds none. -/
theorem keys_insert (m : OrderedMap κ β) {k : κ} (value : β) (present : m.contains k = true) :
    (m.insert k value).keys = m.keys :=
  m.keys_alter value (fun _ => value) present

/-- Changing a key that is not there puts an entry for it at the end. No key is the same, so the
change goes past all entries and begins with the starting value. -/
theorem entries_alter_new (m : OrderedMap κ β) {k : κ} (start : β) (change : β → β)
    (absent : m.contains k = false) :
    (m.alter k start change).entries = m.entries ++ [(k, change start)] := by
  obtain ⟨entries⟩ := m
  simp only [contains, get?, alter] at absent ⊢
  induction entries with
  | nil => rfl
  | cons entry rest inductionHypothesis =>
    obtain ⟨other, held⟩ := entry
    by_cases here : k == other
    · simp [List.lookup_cons, here] at absent
    · have later : (rest.lookup k).isSome = false := by
        simpa [List.lookup_cons, here] using absent
      simp only [alterEntries, here, Bool.false_eq_true, ↓reduceIte, inductionHypothesis later,
        List.cons_append]

/-- Changing a key that is not there puts it at the end. -/
theorem keys_alter_new (m : OrderedMap κ β) {k : κ} (start : β) (change : β → β)
    (absent : m.contains k = false) : (m.alter k start change).keys = m.keys ++ [k] := by
  rw [keys, m.entries_alter_new start change absent, List.map_append]
  rfl

/-- Erasing a key drops the keys that are the same and leaves the others in their order. -/
theorem keys_erase (m : OrderedMap κ β) (k : κ) :
    (m.erase k).keys = m.keys.filter fun key => !(k == key) := by
  rw [keys, keys, erase, List.filter_map]
  rfl

/-- Erasing a key that a choice of keys leaves out changes nothing that it keeps. Whatever is erased
has a key that is the same and would not have been kept. -/
theorem filter_erase (m : OrderedMap κ β) {k : κ} {keeps : κ → Bool}
    (leavesOut : ∀ other, (k == other) = true → keeps other = false) :
    (m.erase k).entries.filter (fun entry => keeps entry.1) =
      m.entries.filter fun entry => keeps entry.1 := by
  rw [erase, List.filter_filter]
  apply List.filter_congr
  intro entry _
  by_cases here : k == entry.1
  · simp [here, leavesOut entry.1 here]
  · simp [here]

/-- Erasing a key that is not there changes nothing. No look-up finds the key, so no entry has one
that is the same, and the filter keeps all of them. -/
theorem erase_of_not_contains (m : OrderedMap κ β) {k : κ} (absent : m.contains k = false) :
    m.erase k = m := by
  obtain ⟨entries⟩ := m
  rw [contains, get?, Option.isSome_eq_false_iff, Option.isNone_iff_eq_none,
    List.lookup_eq_none_iff] at absent
  exact congrArg mk (List.filter_eq_self.2 absent)

/-- The map with some entries written to it, one after the other. -/
def insertAll (m : OrderedMap κ β) (entries : List (κ × β)) : OrderedMap κ β :=
  entries.foldl (fun m entry => m.insert entry.1 entry.2) m

/-- Writing no entries changes nothing. -/
@[simp] theorem insertAll_nil (m : OrderedMap κ β) : m.insertAll [] = m := rfl

/-- Of some entries, the first is written first. -/
@[simp] theorem insertAll_cons (m : OrderedMap κ β) (entry : κ × β) (entries : List (κ × β)) :
    m.insertAll (entry :: entries) = (m.insert entry.1 entry.2).insertAll entries := rfl

/-- Writing to keys that are there adds none. After the first entry the same keys are there, so that
the rest are written to keys that are there as well. -/
theorem keys_insertAll (m : OrderedMap κ β) (entries : List (κ × β))
    (present : ∀ entry ∈ entries, m.contains entry.1 = true) :
    (m.insertAll entries).keys = m.keys := by
  induction entries generalizing m with
  | nil => rfl
  | cons entry rest inductionHypothesis =>
    have first : (m.insert entry.1 entry.2).keys = m.keys :=
      m.keys_insert entry.2 (present entry (by simp))
    have others : ∀ other ∈ rest, (m.insert entry.1 entry.2).contains other.1 = true := by
      intro other later
      rw [← contains_keys, first, contains_keys]
      exact present other (List.mem_cons_of_mem _ later)
    rw [insertAll_cons, inductionHypothesis _ others, first]

variable [EquivBEq κ]

/-- Keys that are the same have the same value. -/
theorem get?_congr (m : OrderedMap κ β) {k other : κ} (same : (k == other) = true) :
    m.get? k = m.get? other := by
  obtain ⟨entries⟩ := m
  simp only [get?]
  induction entries with
  | nil => rfl
  | cons entry rest inductionHypothesis =>
    rw [List.lookup_cons, List.lookup_cons, BEq.congr_left same, inductionHypothesis]

/-- Writing to a key that a choice of keys leaves out changes nothing that it keeps. The entry that
is written has a key that is the same, whether it takes the place of one or goes to the end, and the
filter drops it in either case. -/
theorem filter_insert (m : OrderedMap κ β) {k : κ} (value : β) {keeps : κ → Bool}
    (leavesOut : ∀ other, (k == other) = true → keeps other = false) :
    (m.insert k value).entries.filter (fun entry => keeps entry.1) =
      m.entries.filter fun entry => keeps entry.1 := by
  obtain ⟨entries⟩ := m
  simp only [insert, alter]
  induction entries with
  | nil => simp [alterEntries, leavesOut k BEq.rfl]
  | cons entry rest inductionHypothesis =>
    obtain ⟨other, held⟩ := entry
    by_cases here : k == other
    · simp [alterEntries, here, leavesOut other here]
    · simp only [alterEntries, here, Bool.false_eq_true, ↓reduceIte, List.filter_cons,
        inductionHypothesis]

/-- Entries made of keys that are all unlike each other, one of them changed, are made of the same
keys. Only the first key that is the same is changed, and behind it there is no other, because it
would be like the first one. -/
theorem alterEntries_map (keys : List κ) (value : κ → β) (k : κ) (start : β) (change : β → β)
    (distinct : keys.Pairwise fun a b => (a == b) = false) (present : keys.contains k = true) :
    alterEntries k start change (keys.map fun key => (key, value key)) =
      keys.map fun key => (key, if key == k then change (value key) else value key) := by
  induction keys with
  | nil => simp at present
  | cons key rest inductionHypothesis =>
    obtain ⟨unlike, restDistinct⟩ := List.pairwise_cons.1 distinct
    by_cases here : k == key
    · have others : rest.map (fun other => (other, value other)) =
          rest.map fun other =>
            (other, if other == k then change (value other) else value other) := by
        apply List.map_congr_left
        intro other later
        have different : (other == k) = false := by
          rw [Bool.eq_false_iff]
          intro same
          have clash : (key == other) = true := BEq.symm (BEq.trans same here)
          simp [unlike other later] at clash
        simp [different]
      simp only [List.map_cons, alterEntries, here, ↓reduceIte, BEq.symm here, others]
    · have later : rest.contains k = true := by
        rw [List.contains_cons] at present
        simpa [here] using present
      have different : (key == k) = false := by rw [BEq.comm]; simpa using here
      simp only [List.map_cons, alterEntries, here, Bool.false_eq_true, ↓reduceIte, different,
        inductionHypothesis restDistinct later]

/-- A change that changes nothing when made again, made for some of the keys one after the other,
is made for exactly these keys, however often they were named.

Proof: by induction on the named keys. The first is changed; the rest may name it again, which is
where the change has to be one that is made once. -/
theorem alter_all (keys : List κ) (named : List κ) (value : κ → β) (start : β) (change : β → β)
    (once : ∀ content, change (change content) = change content)
    (distinct : keys.Pairwise fun a b => (a == b) = false)
    (present : ∀ k ∈ named, keys.contains k = true) :
    named.foldl (fun m k => m.alter k start change)
        (⟨keys.map fun key => (key, value key)⟩ : OrderedMap κ β) =
      ⟨keys.map fun key =>
        (key, if named.contains key then change (value key) else value key)⟩ := by
  induction named generalizing value with
  | nil => simp
  | cons k rest inductionHypothesis =>
    have first : (⟨keys.map fun key => (key, value key)⟩ : OrderedMap κ β).alter k start change =
        ⟨keys.map fun key => (key, if key == k then change (value key) else value key)⟩ := by
      rw [alter, alterEntries_map keys value k start change distinct (present k (by simp))]
    rw [List.foldl_cons, first,
      inductionHypothesis _ fun other later => present other (List.mem_cons_of_mem _ later)]
    congr 1
    apply List.map_congr_left
    intro key _
    by_cases here : key == k <;> by_cases later : rest.contains key <;>
      simp only [List.contains_cons, here, later, Bool.or_true, Bool.or_false, ↓reduceIte, once,
        Bool.false_eq_true]

/-- Writing entries whose keys are unlike each other and unlike those that are there puts them at
the end, in order. Each is new also among those written before it, because its key is unlike
theirs. -/
theorem entries_insertAll_new (m : OrderedMap κ β) (entries : List (κ × β))
    (distinct : entries.Pairwise fun a b => (a.1 == b.1) = false)
    (absent : ∀ entry ∈ entries, m.contains entry.1 = false) :
    (m.insertAll entries).entries = m.entries ++ entries := by
  induction entries generalizing m with
  | nil => simp
  | cons entry rest inductionHypothesis =>
    obtain ⟨unlike, restDistinct⟩ := List.pairwise_cons.1 distinct
    have others : ∀ other ∈ rest, (m.insert entry.1 entry.2).contains other.1 = false := by
      intro other later
      have different : (other.1 == entry.1) = false := by
        rw [BEq.comm]
        exact unlike other later
      rw [contains, get?_insert, different]
      exact absent other (List.mem_cons_of_mem _ later)
    have first : (m.insert entry.1 entry.2).entries = m.entries ++ [entry] :=
      m.entries_alter_new entry.2 (fun _ => entry.2) (absent entry (by simp))
    rw [insertAll_cons, inductionHypothesis _ restDistinct others, first, List.append_assoc,
      List.singleton_append]

/-- Writing entries whose keys are unlike each other and unlike those that are there puts the keys
at the end, in order. -/
theorem keys_insertAll_new (m : OrderedMap κ β) (entries : List (κ × β))
    (distinct : entries.Pairwise fun a b => (a.1 == b.1) = false)
    (absent : ∀ entry ∈ entries, m.contains entry.1 = false) :
    (m.insertAll entries).keys = m.keys ++ entries.map Prod.fst := by
  rw [keys, m.entries_insertAll_new entries distinct absent, List.map_append]
  rfl

/-- Entries with unlike keys, written one after the other, are found under their keys, and the other
keys keep their values.

Proof: by induction on the entries. What the first one writes is written over by none of the others,
because their keys are unlike its own. -/
theorem get?_insertAll (m : OrderedMap κ β) (entries : List (κ × β)) (k : κ)
    (distinct : entries.Pairwise fun a b => (a.1 == b.1) = false) :
    (m.insertAll entries).get? k = (entries.lookup k).or (m.get? k) := by
  induction entries generalizing m with
  | nil => rfl
  | cons entry rest inductionHypothesis =>
    obtain ⟨unlike, restDistinct⟩ := List.pairwise_cons.1 distinct
    rw [insertAll_cons, inductionHypothesis _ restDistinct, get?_insert, List.lookup_cons]
    by_cases here : k == entry.1
    · have absent : rest.lookup k = none := by
        rw [List.lookup_eq_none_iff]
        intro other later
        rw [bne, Bool.not_eq_true', Bool.eq_false_iff]
        intro same
        have clash : (entry.1 == other.1) = true := BEq.trans (BEq.symm here) same
        simp [unlike other later] at clash
      simp [here, absent]
    · simp [here]

/-- The value of an entry among entries with unlike keys is its own. No entry before it has a key
that is the same, so the look-up gets as far as this one. -/
theorem lookup_of_mem {entries : List (κ × β)} {entry : κ × β} (present : entry ∈ entries)
    (distinct : entries.Pairwise fun a b => (a.1 == b.1) = false) :
    entries.lookup entry.1 = some entry.2 := by
  induction entries with
  | nil => simp at present
  | cons first rest inductionHypothesis =>
    obtain ⟨unlike, restDistinct⟩ := List.pairwise_cons.1 distinct
    rw [List.lookup_cons]
    rcases List.mem_cons.1 present with rfl | later
    · simp
    · have skipped : (entry.1 == first.1) = false := by rw [BEq.comm]; exact unlike entry later
      rw [skipped]
      exact inductionHypothesis later restDistinct

end OrderedMap

end RecordValidation
