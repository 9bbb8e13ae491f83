import RecordValidation.Value.Key
import RecordValidation.OrderedMap
import RecordValidation.Fault

/-!
# Values as names and as maps

A name is a value that can be looked up: an attribute, a scenario or a key. Lists of names are kept
without repetitions, the first occurrence deciding the place. `Value.Table` is a map from names.
-/

namespace RecordValidation

namespace Value

/-- A map by names. -/
abbrev Table (β : Type) := OrderedMap Value β

/-- Some names without repetitions, in the order of their first occurrences. -/
def distinct (names : List Value) : List Value := names.eraseDups

/-- The same value, provided that it can be a name. -/
def asName (value : Value) : Outcome Value :=
  match value.unhashablePart? with
  | none => .ok value
  | some typeName => .error (.misuse (.unhashable typeName))

/-- The same values, provided that all of them can be names. -/
def asNames (values : List Value) : Outcome (List Value) := values.mapM asName

/-- The items of a value that can be gone through. -/
def items (value : Value) : Outcome (List Value) :=
  match value.items? with
  | some items => .ok items
  | none => .error (.misuse (.notIterable value.refusedTypeName))

/-- The items of a value that can be gone through, all of which can be names. -/
def nameSet (value : Value) : Outcome (List Value) := do asNames (← value.items)

/-- The entries of a map. -/
def entries (value : Value) : Outcome (List (Value × Value)) :=
  match value with
  | map entries => .ok entries
  | _ => .error .notOffered

/-- The two items of a pair. -/
def asPair (value : Value) : Outcome (Value × Value) :=
  match value.items? with
  | none => .error .unsupported
  | some [first, second] => do return (← first.asName, second)
  | some _ => .error .badValue

/-- The entries of a map, or of a sequence of pairs. -/
def toTable (value : Value) : Outcome (Table Value) :=
  match value with
  | map entries => .ok ⟨entries⟩
  | value => do return OrderedMap.ofList (← (← value.items).mapM asPair)

/-- Names of attributes or scenarios as they are given: none, a single text, or the items of a
value. -/
def givenNames : Value → Outcome (List Value)
  | null => .ok []
  | text name => .ok [text name]
  | value => value.items

/-- Whether one text stands inside another. -/
def occurs (part whole : List Char) : Bool :=
  match whole with
  | [] => part.isEmpty
  | _ :: rest => part.isPrefixOf whole || occurs part rest

/-- Whether a value is among what another value holds: a key of a map, an item of a list or tuple, a
part of a text. -/
def isIn (value collection : Value) : Outcome Bool :=
  match collection with
  | map entries => do
    let name ← value.asName
    return (entries.lookup name).isSome
  | list items | tuple items => .ok (items.contains value)
  | text whole =>
    match value with
    | text part => .ok (occurs part.toList whole.toList)
    | _ => .error .unsupported
  | _ => .error .unsupported

/-- The value that a map holds under a name that is there. -/
def itemAt (collection name : Value) : Outcome Value :=
  match collection with
  | map entries => .ok ((entries.lookup name).getD null)
  | _ => .error .unsupported

end Value

end RecordValidation
