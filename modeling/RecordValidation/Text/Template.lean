import RecordValidation.Text.Word

/-!
# Message templates

A template is text with placeholders: an opening brace, one or more word characters and a closing
brace. `segments` reads a template from left to right into literal characters and placeholders, and
`render` writes it with the placeholders that have a value replaced. Other braces, and placeholders
nobody gave a value for, stay as they are; inserted text is never looked at again.
-/

namespace RecordValidation.Text.Template

/-- A piece of a template. -/
inductive Segment
  /-- One character that stands for itself. -/
  | literal (c : Char)
  /-- A name between braces. -/
  | placeholder (name : List Char)
  deriving DecidableEq

/-- The text a segment was read from. -/
def Segment.source : Segment → List Char
  | .literal c => [c]
  | .placeholder name => '\x7b' :: name ++ ['\x7d']

/-- The name of the placeholder whose text after the opening brace starts here, and what follows
it. -/
def closing? (characters : List Char) : Option (List Char × List Char) :=
  match characters.takeWhile isWord, characters.dropWhile isWord with
  | c :: name, '\x7d' :: rest => some (c :: name, rest)
  | _, _ => none

/-- What follows a placeholder is shorter than the text it was read from. -/
theorem length_lt_of_closing? {characters name rest : List Char}
    (found : closing? characters = some (name, rest)) : rest.length < characters.length := by
  unfold closing? at found
  split at found
  · rename_i head tail after _ dropped
    obtain ⟨-, rfl⟩ : head :: tail = name ∧ after = rest := by simpa using found
    have shorter := (List.dropWhile_suffix (l := characters) isWord).length_le
    rw [dropped] at shorter
    simp only [List.length_cons] at shorter
    omega
  · simp at found

/-- The segments of a template, from left to right. -/
def segments : List Char → List Segment
  | [] => []
  | c :: characters =>
    if c = '\x7b' then
      match _found : closing? characters with
      | some (name, rest) => .placeholder name :: segments rest
      | none => .literal c :: segments characters
    else .literal c :: segments characters
  termination_by characters => characters.length
  decreasing_by
    all_goals simp only [List.length_cons]
    · have := length_lt_of_closing? _found
      omega
    · omega
    · omega

/-- The text of one segment, where `value?` gives the values of placeholders. -/
def Segment.render (value? : String → Option String) : Segment → List Char
  | .literal c => [c]
  | .placeholder name =>
    match value? (String.ofList name) with
    | some text => text.toList
    | none => (Segment.placeholder name).source

/-- A template with its placeholders replaced. -/
def render (value? : String → Option String) (template : String) : String :=
  String.ofList ((segments template.toList).flatMap (·.render value?))

end RecordValidation.Text.Template
