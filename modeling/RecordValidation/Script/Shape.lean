import RecordValidation.Validator.Shape

/-!
# The shape of scripts

A script is a function given as data: what guards, filters, defaults and inline checks do. Scripts
are called with a record and an attribute, with a value, or with a record, an attribute and
parameters; every script fits one way of calling. Some perform actions on the record.
-/

namespace RecordValidation

/-- Something done to a record. -/
inductive ActionOf (α : Type)
  | set (name value : α)
  | addError (name message : α)
  /-- Clear the errors of an attribute, or all if it is absent. -/
  | clearErrors (name : α)
  /-- Change the record's scenario. -/
  | enter (scenario : α)
  /-- Append a validator to the record's validators. -/
  | inject (validator : ValidatorOf α)
  /-- Forget the record's compiled validators. -/
  | resetValidators
  /-- Leave a note. -/
  | note (text : α)
  /-- Note all errors. -/
  | noteErrors
  /-- Stop with an exception. -/
  | raise (message : α)

/-- A function given as data. -/
inductive ScriptOf (α : Type)
  /-- Called with record, attribute and parameters: perform actions, answer with a value. -/
  | inline (actions : List (ActionOf α)) (result : α)
  /-- As above: answer with the attribute and the text of the parameters. -/
  | inlineEcho
  /-- As above: complain about an integer below the bound. -/
  | inlineMin (bound : α)
  /-- Called with record and attribute: answer with a value. -/
  | guardConst (value : α)
  /-- As above: whether the attribute is the named one. -/
  | guardAttribute (name : α)
  /-- As above: the value of a named attribute. -/
  | guardValue (name : α)
  /-- As above: whether the record has no errors. -/
  | guardValid
  /-- As above: the attribute followed by an exclamation mark. -/
  | defaultAttribute
  /-- As above: the value of a named attribute. -/
  | defaultOf (name : α)
  /-- Called with a value: answer with a value. -/
  | emptyConst (value : α)
  /-- As above: whether the value is one of some values. -/
  | emptyIn (values : List α)
  /-- As above: the text without blanks around it. -/
  | strip
  /-- As above: the text in upper case. -/
  | upper
  /-- As above: the text in lower case. -/
  | lower
  /-- As above: the value as a text. -/
  | text
  /-- As above: how many items the value has. -/
  | length
  /-- As above: a list of the value alone. -/
  | wrap
  /-- As above: a fixed value. -/
  | const (value : α)
  /-- Called in any way: stop with an exception. -/
  | raise (message : α)

end RecordValidation
