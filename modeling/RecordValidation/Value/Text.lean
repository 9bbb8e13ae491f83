import RecordValidation.Value
import RecordValidation.Number.Shortest
import RecordValidation.Text.Quoted

/-!
# The text of values

`Value.shown` writes a value the way it stands inside a collection, with texts in quotes, and
`Value.toText` the way it stands in a message, where a text is written as it is.
-/

namespace RecordValidation

namespace Value

/-- The flags of a pattern, as they are shown. -/
def flagNames (flags : Pattern.Flags) : List String :=
  (if flags.template then ["re.TEMPLATE"] else [])
    ++ (if flags.ignoreCase then ["re.IGNORECASE"] else [])
    ++ (if flags.multiLine then ["re.MULTILINE"] else [])
    ++ (if flags.dotAll then ["re.DOTALL"] else [])
    ++ (if flags.verbose then ["re.VERBOSE"] else [])
    ++ (if flags.ascii then ["re.ASCII"] else [])

/-- A pattern as it is shown: its first two hundred characters with the quotes, and its flags. -/
def shownPattern (pattern : Pattern) : String :=
  let source := ((Text.quoted pattern.source).take 200).toString
  let flags := flagNames pattern.flags
  let tail := if flags.isEmpty then "" else ", " ++ "|".intercalate flags
  "re.compile(" ++ source ++ tail ++ ")"

/-- Texts separated by commas. -/
def commaSeparated (texts : List String) : String := ", ".intercalate texts

mutual

/-- A value as it is shown inside a collection. -/
def shown : Value → String
  | null => "None"
  | bool true => "True"
  | bool false => "False"
  | int value => toString value
  | float value => value.text
  | text value => Text.quoted value
  | list items => "[" ++ commaSeparated (shownItems items) ++ "]"
  | tuple [item] => "(" ++ item.shown ++ ",)"
  | tuple items => "(" ++ commaSeparated (shownItems items) ++ ")"
  | map entries => "\x7b" ++ commaSeparated (shownEntries entries) ++ "\x7d"
  | pattern p => shownPattern p
  | script _ => "<function>"
  | kind named => "<class '" ++ named.qualifiedName ++ "'>"
  | validator ⟨attributes, on, except, _, _, _, _, _, check⟩ =>
    check.kind.name ++ "(attributes=[" ++ commaSeparated (shownItems attributes) ++ "], on=["
      ++ commaSeparated (shownItems on) ++ "], except_=[" ++ commaSeparated (shownItems except)
      ++ "])"
  | rule ⟨attributes, checked, on, except, params⟩ =>
    "RuleSpec(attributes=" ++ attributes.shown ++ ", validator=" ++ checked.shown ++ ", on="
      ++ on.shown ++ ", except_=" ++ except.shown ++ ", params=\x7b"
      ++ commaSeparated (shownEntries params) ++ "\x7d)"
  | method name => "<bound method " ++ name ++ ">"

/-- Values as they are shown inside a collection. -/
def shownItems : List Value → List String
  | [] => []
  | item :: rest => item.shown :: shownItems rest

/-- Entries as they are shown inside a map. -/
def shownEntries : List (Value × Value) → List String
  | [] => []
  | (name, value) :: rest => (name.shown ++ ": " ++ value.shown) :: shownEntries rest

end

/-- The parts of a rule as they stand in a message. -/
def textOfRule (parts : RuleOf Value) : String :=
  "attributes=" ++ parts.attributes.shown ++ " validator=" ++ parts.validator.shown ++ " on="
    ++ parts.on.shown ++ " except_=" ++ parts.except.shown ++ " params="
    ++ (map parts.params).shown

/-- A value as it stands in a message. -/
def toText : Value → String
  | text value => value
  | rule parts => textOfRule parts
  | value => value.shown

/-- A text stands for itself. -/
@[simp] theorem toText_text (s : String) : (text s).toText = s := rfl

end Value

/-- A validator as it is shown. -/
def ValidatorOf.shown (validator : Validator) : String := (Value.validator validator).shown

end RecordValidation
