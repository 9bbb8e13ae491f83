import RecordValidation.Fault

/-!
# Record schemas

A schema lists the fields of a record type: name, default value and, if the name alone does not make
a good one, a label. Names are not empty and no two fields share one.
-/

namespace RecordValidation

/-- The declaration of one attribute of a record type. -/
structure Field where
  name : String
  default : Value
  label : Option String

namespace Field

/-- The arguments a field is declared with. -/
def parameters : List String := ["name", "default", "label"]

/-- What is wrong with the name of a field. -/
def nameComplaints : Option Value → List Detail
  | none => [⟨["name"], .missing⟩]
  | some (.text "") => [⟨["name"], .emptyText⟩]
  | some (.text _) => []
  | some _ => [⟨["name"], .notText⟩]

/-- What is wrong with the label of a field. -/
def labelComplaints : Option Value → List Detail
  | none | some .null | some (.text _) => []
  | some _ => [⟨["label"], .notText⟩]

/-- A field from named arguments. -/
def ofArguments (arguments : List (String × Value)) : Outcome Field :=
  let name := arguments.lookup "name"
  let label := arguments.lookup "label"
  let unexpected := arguments.filterMap fun argument =>
    if parameters.contains argument.1 then none else some ⟨[argument.1], .unexpected⟩
  match nameComplaints name ++ labelComplaints label ++ unexpected with
  | [] => .ok {
      name := (name.bind Value.text?).getD ""
      default := (arguments.lookup "default").getD .null
      label := label.bind Value.text? }
  | details => .error (.malformedField details)

/-- A field from a name alone. -/
def ofName (name : Value) : Outcome Field := ofArguments [("name", name)]

end Field

/-- The first name that stands in a list twice. -/
def firstRepeated? : List String → List String → Option String
  | _, [] => none
  | seen, name :: rest =>
    if seen.contains name then some name else firstRepeated? (name :: seen) rest

/-- A list of names without repetition has no first repeated name. -/
theorem firstRepeated?_eq_none_iff (seen names : List String) :
    firstRepeated? seen names = none ↔ names.Nodup ∧ ∀ name ∈ names, name ∉ seen := by
  induction names generalizing seen with
  | nil => simp [firstRepeated?]
  | cons name rest inductionHypothesis =>
    by_cases known : name ∈ seen
    · simp [firstRepeated?, known]
    · simp only [firstRepeated?, List.contains_iff_mem, known, ↓reduceIte, inductionHypothesis,
        List.nodup_cons, List.mem_cons, not_or]
      constructor
      · rintro ⟨distinct, fresh⟩
        refine ⟨⟨fun again => (fresh name again).1 rfl, distinct⟩, ?_⟩
        rintro other (rfl | later)
        · exact known
        · exact (fresh other later).2
      · rintro ⟨⟨new, distinct⟩, fresh⟩
        exact ⟨distinct, fun other later =>
          ⟨fun same => new (same ▸ later), fresh other (Or.inr later)⟩⟩

/-- The declared attributes of a record type. -/
structure Schema where
  fields : List Field
  /-- No name is declared twice. -/
  distinct : (fields.map Field.name).Nodup

namespace Schema

/-- The schema without fields. -/
def empty : Schema := ⟨[], by simp⟩

instance : Inhabited Schema := ⟨empty⟩

/-- A schema of some fields. -/
def ofFields (fields : List Field) : Outcome Schema :=
  match repeated : firstRepeated? [] (fields.map Field.name) with
  | some name => .error (.declaration (.duplicateField name) .null)
  | none => .ok ⟨fields, ((firstRepeated?_eq_none_iff [] _).1 repeated).1⟩

/-- The names of all attributes, in order. -/
def names (schema : Schema) : List String := schema.fields.map Field.name

/-- The field of a name. -/
def get? (schema : Schema) (name : Value) : Option Field :=
  schema.fields.find? fun field => match name with
    | .text name => field.name == name
    | _ => false

/-- The label declared for a name. -/
def label? (schema : Schema) (name : Value) : Option String := (schema.get? name).bind Field.label

/-- The names with their default values. -/
def defaults (schema : Schema) : List (String × Value) :=
  schema.fields.map fun field => (field.name, field.default)

end Schema

end RecordValidation
