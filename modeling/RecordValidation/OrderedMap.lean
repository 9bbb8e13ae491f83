/-!
# Ordered maps

A map that keeps its entries in the order in which their keys first came. Writing to a key that is
there already changes the value in place and leaves the key as it was first written; an erased key
that comes back goes to the end.

The equations say what each operation does to look-ups. Keys need not be equal to be the same, so
the equations ask for an equivalence.
-/

namespace RecordValidation

/-- Entries by key, in the order in which the keys first came. -/
structure OrderedMap (κ β : Type) where
  entries : List (κ × β)

namespace OrderedMap

variable {κ β : Type}

/-- The map without entries. -/
def empty : OrderedMap κ β := ⟨[]⟩

instance : Inhabited (OrderedMap κ β) := ⟨empty⟩

/-- The keys, in order. -/
def keys (m : OrderedMap κ β) : List κ := m.entries.map Prod.fst

/-- The number of entries. -/
def size (m : OrderedMap κ β) : Nat := m.entries.length

/-- Whether there are no entries. -/
def isEmpty (m : OrderedMap κ β) : Bool := m.entries.isEmpty

/-- The map with every value changed. -/
def mapValues {γ : Type} (f : β → γ) (m : OrderedMap κ β) : OrderedMap κ γ :=
  ⟨m.entries.map fun entry => (entry.1, f entry.2)⟩

variable [BEq κ]

/-- The value of a key. -/
def get? (m : OrderedMap κ β) (k : κ) : Option β := m.entries.lookup k

/-- Whether a key is there. -/
def contains (m : OrderedMap κ β) (k : κ) : Bool := (m.get? k).isSome

/-- Change the value of a key, from `start` if it is not there. -/
def alterEntries (k : κ) (start : β) (f : β → β) : List (κ × β) → List (κ × β)
  | [] => [(k, f start)]
  | (other, value) :: rest =>
    if k == other then (other, f value) :: rest else (other, value) :: alterEntries k start f rest

/-- The map with the value of a key changed, from `start` if it was not there. -/
def alter (m : OrderedMap κ β) (k : κ) (start : β) (f : β → β) : OrderedMap κ β :=
  ⟨alterEntries k start f m.entries⟩

/-- The map with a value written to a key. -/
def insert (m : OrderedMap κ β) (k : κ) (value : β) : OrderedMap κ β :=
  m.alter k value fun _ => value

/-- The map without a key. -/
def erase (m : OrderedMap κ β) (k : κ) : OrderedMap κ β :=
  ⟨m.entries.filter fun entry => !(k == entry.1)⟩

/-- The map of some entries, written one after the other. -/
def ofList (entries : List (κ × β)) : OrderedMap κ β :=
  entries.foldl (fun m entry => m.insert entry.1 entry.2) empty

/-- Changing a key changes its own value and no other. -/
theorem get?_alter [EquivBEq κ] (m : OrderedMap κ β) (k other : κ) (start : β) (f : β → β) :
    (m.alter k start f).get? other =
      if other == k then some (f ((m.get? k).getD start)) else m.get? other := by
  obtain ⟨entries⟩ := m
  simp only [alter, get?]
  induction entries with
  | nil =>
    by_cases same : other == k <;> simp [alterEntries, List.lookup_cons, same]
  | cons entry rest inductionHypothesis =>
    obtain ⟨present, value⟩ := entry
    by_cases here : k == present
    · by_cases same : other == k
      · have also : (other == present) = true := BEq.trans same here
        simp [alterEntries, List.lookup_cons, here, same, also]
      · have unlike : (other == present) = false := by
          apply Bool.eq_false_iff.2
          intro also
          exact same (BEq.trans also (BEq.symm here))
        simp [alterEntries, List.lookup_cons, here, same, unlike]
    · by_cases same : other == k
      · have unlike : (other == present) = false := by
          apply Bool.eq_false_iff.2
          intro also
          exact here (BEq.trans (BEq.symm same) also)
        simp only [alterEntries, here, Bool.false_eq_true, ↓reduceIte, List.lookup_cons, unlike]
        rw [inductionHypothesis, if_pos same]
      · by_cases also : other == present
        · simp [alterEntries, List.lookup_cons, here, same, also]
        · simp only [alterEntries, here, Bool.false_eq_true, ↓reduceIte, List.lookup_cons, also]
          rw [inductionHypothesis, if_neg same]

/-- Writing to a key sets its own value and no other. -/
theorem get?_insert [EquivBEq κ] (m : OrderedMap κ β) (k other : κ) (value : β) :
    (m.insert k value).get? other = if other == k then some value else m.get? other := by
  rw [insert, get?_alter]

/-- Erasing a key leaves the others. -/
theorem get?_erase [EquivBEq κ] (m : OrderedMap κ β) (k other : κ) :
    (m.erase k).get? other = if other == k then none else m.get? other := by
  obtain ⟨entries⟩ := m
  simp only [erase, get?]
  induction entries with
  | nil => simp
  | cons entry rest inductionHypothesis =>
    obtain ⟨present, value⟩ := entry
    by_cases here : k == present
    · simp only [List.filter, here, Bool.not_true, List.lookup_cons]
      rw [inductionHypothesis]
      by_cases same : other == k
      · simp [same]
      · have unlike : (other == present) = false := by
          apply Bool.eq_false_iff.2
          intro also
          exact same (BEq.trans also (BEq.symm here))
        simp [same, unlike]
    · simp only [List.filter, here, Bool.not_false, List.lookup_cons]
      by_cases also : other == present
      · have unlike : (other == k) = false := by
          apply Bool.eq_false_iff.2
          intro same
          exact here (BEq.trans (BEq.symm same) also)
        simp [also, unlike]
      · simp only [also]
        exact inductionHypothesis

end OrderedMap

end RecordValidation
