import RecordValidation.Schema
import RecordValidation.Value.Names

/-!
# Schemas from other declarations

A schema can be made from the fields of a data class or from the columns of a table, some of them
left out. Titles and comments become labels. Only plain default values are carried over: a field
whose default is made anew each time, and a column whose default is computed, start out absent.
-/

namespace RecordValidation

/-- A field of a data class. -/
structure ClassField where
  name : String
  /-- The default value, if it is a plain one. -/
  default : Option Value
  title : Value

/-- A column of a table. -/
structure Column where
  name : String
  /-- The default value, if it is a plain one. -/
  default : Option Value
  comment : Value

/-- What a table schema is asked to be made from. -/
inductive TableSource
  /-- A table, or a class mapped to one. -/
  | table (columns : List Column)
  /-- Something else, as it is shown. -/
  | other (shown : String)
  /-- Anything, where the library that describes tables is not installed. -/
  | unavailable

namespace Schema

/-- A field with its parts given one by one. -/
def fieldOf (name : String) (default : Option Value) (label : Value) : Outcome Field :=
  Field.ofArguments
    [("name", .text name), ("default", default.getD .null), ("label", label)]

/-- The schema of a data class without some of its fields. -/
def ofClass (fields : List ClassField) (exclude : Value) : Outcome Schema := do
  let skipped ← exclude.nameSet
  let kept := fields.filter fun field => !skipped.contains (.text field.name)
  ofFields (← kept.mapM fun field => fieldOf field.name field.default field.title)

/-- The schema of a table without some of its columns. -/
def ofTable (source : TableSource) (exclude : Value) : Outcome Schema :=
  match source with
  | .unavailable => .error .missingTables
  | .other shown => .error (.declaration (.notATable shown) .null)
  | .table columns => do
    let skipped ← exclude.nameSet
    let kept := columns.filter fun column => !skipped.contains (.text column.name)
    ofFields (← kept.mapM fun column => fieldOf column.name column.default column.comment)

end Schema

end RecordValidation
