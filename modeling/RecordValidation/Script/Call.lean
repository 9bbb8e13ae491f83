import RecordValidation.Session
import RecordValidation.Text.Blank
import RecordValidation.Text.LetterCase
import RecordValidation.Validator.Construction

/-!
# Calling scripts

A script fits one way of calling; called in another it fails, except for one that only stops with an
exception. Actions are performed in order, and one that stops keeps the rest from being performed.

A kind of checks can be called too: it builds a validator from what it is called with.
-/

namespace RecordValidation

namespace Script

open Value (null bool int text list)

/-- Map a text; nothing else can be mapped. -/
def onText (map : String → String) : Value → Outcome Value
  | text s => .ok (text (map s))
  | _ => .error .unsupported

/-- Call a script with a value. -/
def onValue (value : Value) : Script → Outcome Value
  | .emptyConst answer | .const answer => .ok answer
  | .emptyIn values => .ok (bool (values.any value.equals))
  | .strip => onText Text.trim value
  | .upper => onText Text.upper value
  | .lower => onText Text.lower value
  | .text => .ok (text value.toText)
  | .length =>
    match value.length? with
    | some length => .ok (int length)
    | none => .error .unsupported
  | .wrap => .ok (list [value])
  | .raise message => .error (.raised message.toText)
  | _ => .error .unsupported

/-- Call a script with a record and an attribute. -/
def onAttribute {ρ : Type} (host : Host ρ) (name : Value) : Script → Act ρ Value
  | .guardConst answer => return answer
  | .guardAttribute wanted => return bool (name.equals wanted)
  | .guardValue other | .defaultOf other => host.get other
  | .guardValid => do
    if host.knowsErrors then return bool (← Act.errors).isEmpty else throw .notOffered
  | .defaultAttribute => return text (name.toText ++ "!")
  | .raise message => throw (.raised message.toText)
  | _ => throw .unsupported

/-- Complain about an integer below a bound. -/
def complainBelow (bound value : Value) : Outcome Value :=
  match value with
  | .int _ | .bool _ =>
    match value.quantity?, bound.quantity? with
    | some quantity, some limit =>
      .ok (if quantity.isBelow limit then text "too small" else null)
    | _, _ => .error .unsupported
  | _ => .ok null

/-- Call a script with a record, an attribute and parameters. -/
def onParams {ρ : Type} (host : Host ρ) (name params : Value) : Script → Act ρ Value
  | .inline actions answer => do
    actions.forM host.perform
    return answer
  | .inlineEcho => return text (name.toText ++ "|" ++ params.toText)
  | .inlineMin bound => do Act.ofOutcome (complainBelow bound (← host.get name))
  | .raise message => throw (.raised message.toText)
  | _ => throw .unsupported

/-- Call a script with an attribute and parameters but no record. Scripts that would ask a record
find a text in its place. -/
def onPair (params : Value) : Script → Outcome Value
  | .guardConst answer => .ok answer
  | .guardAttribute wanted => .ok (bool (params.equals wanted))
  | .guardValue _ | .defaultOf _ | .guardValid => .error .notOffered
  | .defaultAttribute => onText (· ++ "!") params
  | .raise message => .error (.raised message.toText)
  | _ => .error .unsupported

end Script

namespace Value

/-- Call a value with a value. -/
def callOn (function value : Value) : Outcome Value :=
  match function with
  | .script called => Script.onValue value called
  | .kind named => validator <$> constructByPlace named value []
  | _ => .error .unsupported

/-- Call a value with an attribute and parameters but no record. -/
def callOnPair (function name params : Value) : Outcome Value :=
  match function with
  | .script called => Script.onPair params called
  | .kind named => validator <$> constructByPlace named name [params]
  | _ => .error .unsupported

/-- Call a kind of checks with a record and further values. -/
def callKind {ρ : Type} (host : Host ρ) (named : CheckKind) (given : List Value) : Act ρ Value := do
  let attributes ← Act.ofOutcome (host.asSequence (← Act.record))
  validator <$> Act.ofOutcome (constructByPlace named attributes given)

/-- Call a value with a record and an attribute. -/
def callOnAttribute {ρ : Type} (host : Host ρ) (function name : Value) : Act ρ Value :=
  match function with
  | .script called => Script.onAttribute host name called
  | .kind named => callKind host named [name]
  | _ => throw .unsupported

/-- Call a value with a record, an attribute and parameters. -/
def callOnParams {ρ : Type} (host : Host ρ) (function name params : Value) : Act ρ Value :=
  match function with
  | .script called => Script.onParams host name params called
  | .kind named => callKind host named [name, params]
  | _ => throw .unsupported

end Value

end RecordValidation
