import RecordValidation.Validator.Shape
import RecordValidation.Value

/-!
# Caches of compiled validators

A model compiles its rules when they are first needed and keeps the validators until it is told to
forget them. Validators can be added to those that are kept. A pass that is under way goes on with
the validators it began with: `generation` names those in force, and `atGeneration` finds them
again, with what was added to them while they were kept.
-/

namespace RecordValidation

/-- The validators that a model keeps, and those it has forgotten, oldest first. -/
structure ValidatorCache where
  forgotten : List (List Validator)
  current : Option (List Validator)

namespace ValidatorCache

/-- The cache of a model that has not compiled its rules. -/
def empty : ValidatorCache := ⟨[], none⟩

instance : Inhabited ValidatorCache := ⟨empty⟩

/-- The cache with validators to be kept. -/
def keep (cache : ValidatorCache) (validators : List Validator) : ValidatorCache :=
  { cache with current := some validators }

/-- The cache with nothing kept. -/
def forget (cache : ValidatorCache) : ValidatorCache :=
  match cache.current with
  | some validators => ⟨cache.forgotten ++ [validators], none⟩
  | none => cache

/-- Which validators are in force. -/
def generation (cache : ValidatorCache) : Nat := cache.forgotten.length

/-- The validators that were in force once. -/
def atGeneration (cache : ValidatorCache) (generation : Nat) : List Validator :=
  (cache.forgotten[generation]?).getD (cache.current.getD [])

/-- Nothing is kept once the validators are forgotten. -/
@[simp] theorem current_forget (cache : ValidatorCache) : cache.forget.current = none := by
  unfold forget
  split
  · rfl
  · assumption

/-- What is kept is in force. -/
@[simp] theorem atGeneration_keep (cache : ValidatorCache) (validators : List Validator) :
    (cache.keep validators).atGeneration cache.generation = validators := by
  simp [atGeneration, keep, generation]

end ValidatorCache

end RecordValidation
