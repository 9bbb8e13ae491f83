/-!
# Classes of characters

A class is given by ranges of code points in increasing order, both ends included. Membership walks
the ranges and stops at the first one that starts beyond the character, so a class that begins with
the ASCII characters is quick to ask about them.
-/

namespace RecordValidation.Text

/-- A set of characters, as increasing ranges of code points. -/
structure CharacterClass where
  /-- First and last code point of each range. -/
  ranges : List (Nat × Nat)

namespace CharacterClass

/-- Whether a code point lies in one of the increasing ranges. -/
def covers : List (Nat × Nat) → Nat → Bool
  | [], _ => false
  | (first, last) :: rest, code =>
    if code < first then false else code ≤ last || covers rest code

/-- Whether the character belongs to the class. -/
def contains (members : CharacterClass) (c : Char) : Bool :=
  covers members.ranges c.toNat

/-- The start of the range that holds a code point. -/
def rangeStart? : List (Nat × Nat) → Nat → Option Nat
  | [], _ => none
  | (first, last) :: rest, code =>
    if code < first then none
    else if code ≤ last then some first
    else rangeStart? rest code

/-- A start is found exactly for the members. -/
theorem rangeStart?_isSome (ranges : List (Nat × Nat)) (code : Nat) :
    (rangeStart? ranges code).isSome = covers ranges code := by
  induction ranges with
  | nil => rfl
  | cons range rest inductionHypothesis =>
    obtain ⟨first, last⟩ := range
    by_cases before : code < first
    · simp [rangeStart?, covers, before]
    · by_cases inside : code ≤ last <;>
        simp [rangeStart?, covers, before, inside, inductionHypothesis]

end CharacterClass

end RecordValidation.Text
