import RecordValidation.Value

/-!
# Equality of values

Two values are equal when they have the same key. Numbers are equal by what they stand for, so one,
one point zero and truth are the same; a list never equals a tuple; maps are equal regardless of the
order of their entries. A key is a sequence of atoms, written so that it can be read in one way
only: each collection is announced with its length.

As a name, an absent number is the same as itself; as a compared value it is equal to nothing, and
so is every collection that holds one.
-/

namespace RecordValidation

namespace Value

/-- A piece of a key. -/
inductive Atom
  | null
  | integer (value : Int)
  | fraction (negative : Bool) (significand : Nat) (exponent : Int)
  | infinite (negative : Bool)
  | unordered
  | text (value : String)
  | list (length : Nat)
  | tuple (length : Nat)
  | map (length : Nat)
  | pattern (source : String) (ignoreCase multiLine dotAll : Bool)
  | script
  | kind (name : String)
  | validator (name : String)
  | rule
  | method (name : String)
  deriving DecidableEq, Ord

/-- What decides whether values are equal. -/
abbrev Key := List Atom

/-- The key of a number. -/
def numberKey (number : Binary64) : Key :=
  match number.toInt? with
  | some value => [.integer value]
  | none =>
    match number with
    | .nan => [.unordered]
    | .infinite negative => [.infinite negative]
    | .finite negative significand exponent => [.fraction negative significand exponent]

/-- Order of keys, atom by atom. -/
def compareKeys : Key → Key → Ordering
  | [], [] => .eq
  | [], _ :: _ => .lt
  | _ :: _, [] => .gt
  | a :: rest, b :: others => (compare a b).then (compareKeys rest others)

mutual

/-- The key of a value. -/
def key : Value → Key
  | null => [.null]
  | bool value => [.integer (if value then 1 else 0)]
  | int value => [.integer value]
  | float value => numberKey value
  | text value => [.text value]
  | list items => .list items.length :: keys items
  | tuple items => .tuple items.length :: keys items
  | map entries =>
    .map entries.length :: ((entryKeys entries).mergeSort fun a b => (compareKeys a b).isLE).flatten
  | pattern p => [.pattern p.source p.flags.ignoreCase p.flags.multiLine p.flags.dotAll]
  | script _ => [.script]
  | kind named => [.kind named.name]
  | validator ready => [.validator ready.check.kind.name]
  | rule _ => [.rule]
  | method name => [.method name]

/-- The keys of values in a row. -/
def keys : List Value → Key
  | [] => []
  | value :: rest => value.key ++ keys rest

/-- The keys of entries, one by one. -/
def entryKeys : List (Value × Value) → List Key
  | [] => []
  | (name, value) :: rest => (name.key ++ value.key) :: entryKeys rest

end

/-- Values are the same if their keys are. -/
instance : BEq Value := ⟨fun a b => a.key == b.key⟩

/-- Comparing values is comparing their keys. -/
theorem beq_eq (a b : Value) : (a == b) = (a.key == b.key) := rfl

/-- Values are the same exactly if their keys are equal. Sameness of values is an equivalence for
that reason, although they need not be equal. -/
theorem beq_iff_key (a b : Value) : (a == b) = true ↔ a.key = b.key := by
  rw [beq_eq]
  exact beq_iff_eq

instance : EquivBEq Value where
  rfl := by simp [beq_eq]
  symm := by
    intro a b same
    rw [beq_iff_key] at *
    exact same.symm
  trans := by
    intro a b c same also
    rw [beq_iff_key] at *
    exact same.trans also

/-- Texts are the same only if they are equal. -/
@[simp] theorem text_beq_text (s t : String) : (text s == text t) = (s == t) := by
  by_cases same : s = t
  · subst same
    simp
  · have unlike : (text s).key ≠ (text t).key := by simpa [key] using same
    rw [beq_eq, beq_eq_false_iff_ne.2 unlike, beq_eq_false_iff_ne.2 same]

/-- Whether compared values are equal. -/
def equals (a b : Value) : Bool := a == b && !a.key.contains .unordered

mutual

/-- The type of the first part of a value that keeps it from being a name: something that can
change, on its own or within tuples. -/
def unhashablePart? : Value → Option String
  | list items => some (list items).typeName
  | map entries => some (map entries).typeName
  | rule _ => some (list []).typeName
  | tuple items => firstUnhashable? items
  | _ => none

/-- The type of the first part of some values that keeps one from being a name. -/
def firstUnhashable? : List Value → Option String
  | [] => none
  | value :: rest =>
    match value.unhashablePart? with
    | some part => some part
    | none => firstUnhashable? rest

end

end Value

end RecordValidation
