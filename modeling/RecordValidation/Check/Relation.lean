/-!
# Relations of a comparison

The six ways a value may be asked to compare with its target, and their symbols.
-/

namespace RecordValidation

/-- A relation between two compared values. -/
inductive Relation
  | equal
  | unequal
  | above
  | atLeast
  | below
  | atMost
  deriving DecidableEq

namespace Relation

/-- All relations. -/
def all : List Relation := [equal, unequal, above, atLeast, below, atMost]

/-- The symbol of a relation. -/
def symbol : Relation → String
  | equal => "=="
  | unequal => "!="
  | above => ">"
  | atLeast => ">="
  | below => "<"
  | atMost => "<="

/-- The relation of a symbol. -/
def ofSymbol? (symbol : String) : Option Relation := all.find? (·.symbol == symbol)

/-- Whether the relation holds of two things with a known order. -/
def holds : Relation → Ordering → Bool
  | equal, order => order == .eq
  | unequal, order => order != .eq
  | above, order => order == .gt
  | atLeast, order => order != .lt
  | below, order => order == .lt
  | atMost, order => order != .gt

/-- Whether the relation holds of two things that cannot be ordered: they only count as unequal. -/
def holdsUnordered (relation : Relation) : Bool := relation == .unequal

/-- The template of the complaint that the relation does not hold. -/
def complaint : Relation → String
  | equal => "\x7battribute\x7d must be equal to \"\x7bcompare_value_or_attribute\x7d\"."
  | unequal => "\x7battribute\x7d must not be equal to \"\x7bcompare_value_or_attribute\x7d\"."
  | above => "\x7battribute\x7d must be greater than \"\x7bcompare_value_or_attribute\x7d\"."
  | atLeast =>
    "\x7battribute\x7d must be greater than or equal to \"\x7bcompare_value_or_attribute\x7d\"."
  | below => "\x7battribute\x7d must be less than \"\x7bcompare_value_or_attribute\x7d\"."
  | atMost =>
    "\x7battribute\x7d must be less than or equal to \"\x7bcompare_value_or_attribute\x7d\"."

/-- A relation is found by its symbol. -/
theorem ofSymbol?_symbol (relation : Relation) : ofSymbol? relation.symbol = some relation := by
  cases relation <;> decide

end Relation

/-- What two compared values are compared as. -/
inductive ComparedAs
  | string
  | number
  deriving DecidableEq

/-- The name of a way to compare. -/
def ComparedAs.name : ComparedAs → String
  | .string => "string"
  | .number => "number"

end RecordValidation
