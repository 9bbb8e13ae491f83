import RecordValidation.Value.Names

/-!
# Error bags

An error bag collects messages by attribute. Attributes keep the order in which their first message
came, messages the order in which they came; an attribute is there only while it has a message, so
the bag is empty exactly when nothing failed.

Messages are values, because a check of a record's own may complain with anything.
-/

namespace RecordValidation

/-- Messages by attribute. -/
structure ErrorBag where
  messages : Value.Table (List Value)

namespace ErrorBag

/-- The bag without messages. -/
def empty : ErrorBag := ⟨.empty⟩

instance : Inhabited ErrorBag := ⟨empty⟩

/-- Add a message for an attribute. -/
def add (bag : ErrorBag) (name message : Value) : ErrorBag :=
  ⟨bag.messages.alter name [] fun messages => messages ++ [message]⟩

/-- Add messages for an attribute, one after the other. -/
def addEach (bag : ErrorBag) (name : Value) (messages : List Value) : ErrorBag :=
  messages.foldl (·.add name ·) bag

/-- Drop the messages of an attribute. -/
def clear (bag : ErrorBag) (name : Value) : ErrorBag := ⟨bag.messages.erase name⟩

/-- Whether there are no messages. -/
def isEmpty (bag : ErrorBag) : Bool := bag.messages.isEmpty

/-- Whether an attribute has messages. -/
def has (bag : ErrorBag) (name : Value) : Bool := bag.messages.contains name

/-- The messages of an attribute. -/
def get (bag : ErrorBag) (name : Value) : List Value := (bag.messages.get? name).getD []

/-- Adding a message appends it to the messages of its attribute and touches no other. -/
theorem get_add (bag : ErrorBag) (name message other : Value) :
    (bag.add name message).get other =
      if other == name then bag.get name ++ [message] else bag.get other := by
  simp only [get, add, OrderedMap.get?_alter]
  split <;> rfl

/-- Adding messages for an attribute touches no entry but its own. -/
theorem get?_addEach_of_unlike (bag : ErrorBag) {name other : Value} (messages : List Value)
    (unlike : (other == name) = false) :
    (bag.addEach name messages).messages.get? other = bag.messages.get? other := by
  unfold addEach
  induction messages generalizing bag with
  | nil => rfl
  | cons message rest inductionHypothesis =>
    rw [List.foldl_cons, inductionHypothesis, add, OrderedMap.get?_alter, unlike,
      if_neg Bool.false_ne_true]

/-- What an attribute has after messages are added for it depends on what it had. -/
theorem get?_addEach_congr {bag other : ErrorBag} {name : Value} (messages : List Value)
    (same : bag.messages.get? name = other.messages.get? name) :
    (bag.addEach name messages).messages.get? name =
      (other.addEach name messages).messages.get? name := by
  unfold addEach
  induction messages generalizing bag other with
  | nil => exact same
  | cons message rest inductionHypothesis =>
    rw [List.foldl_cons, List.foldl_cons]
    apply inductionHypothesis
    simp only [add, OrderedMap.get?_alter, same]

/-- Adding messages appends them to those of their attribute. -/
theorem get_addEach_self (bag : ErrorBag) (name : Value) (messages : List Value) :
    (bag.addEach name messages).get name = bag.get name ++ messages := by
  unfold addEach
  induction messages generalizing bag with
  | nil => simp
  | cons message rest inductionHypothesis =>
    rw [List.foldl_cons, inductionHypothesis, get_add]
    simp

/-- An attribute that has messages is there. -/
theorem has_of_get_ne_nil {bag : ErrorBag} {name : Value} (present : bag.get name ≠ []) :
    bag.has name = true := by
  unfold get at present
  unfold has OrderedMap.contains
  cases entry : bag.messages.get? name with
  | none => simp [entry] at present
  | some messages => rfl

/-- A bag to which a message was added is not empty. -/
theorem isEmpty_add (bag : ErrorBag) (name message : Value) :
    (bag.add name message).isEmpty = false := by
  obtain ⟨⟨entries⟩⟩ := bag
  cases entries with
  | nil => rfl
  | cons entry rest =>
    simp only [add, isEmpty, OrderedMap.isEmpty, OrderedMap.alter, OrderedMap.alterEntries]
    split <;> rfl

/-- A bag is empty after messages were added only if it was empty and there were none. -/
theorem isEmpty_addEach {bag : ErrorBag} {name : Value} {messages : List Value}
    (without : (bag.addEach name messages).isEmpty = true) :
    bag.isEmpty = true ∧ messages = [] := by
  induction messages generalizing bag with
  | nil => exact ⟨without, rfl⟩
  | cons message rest inductionHypothesis =>
    have added : (bag.add name message).isEmpty = true := (inductionHypothesis without).1
    rw [isEmpty_add] at added
    cases added

/-- An empty bag has messages for no attribute. -/
theorem has_of_isEmpty {bag : ErrorBag} (without : bag.isEmpty = true) (name : Value) :
    bag.has name = false := by
  obtain ⟨⟨entries⟩⟩ := bag
  cases entries with
  | nil => rfl
  | cons entry rest => cases without

/-- Clearing an attribute drops its messages and touches no other. -/
theorem get_clear (bag : ErrorBag) (name other : Value) :
    (bag.clear name).get other = if other == name then [] else bag.get other := by
  simp only [get, clear, OrderedMap.get?_erase]
  split <;> rfl

/-- The first message of an attribute. -/
def firstOf? (bag : ErrorBag) (name : Value) : Option Value := (bag.get name).head?

/-- All messages by attribute. -/
def all (bag : ErrorBag) : List (Value × List Value) := bag.messages.entries

/-- The first message of every attribute. -/
def firstOfEach (bag : ErrorBag) : List (Value × Value) :=
  bag.all.filterMap fun entry => entry.2.head?.map fun message => (entry.1, message)

/-- The number of attributes with messages. -/
def size (bag : ErrorBag) : Nat := bag.messages.size

/-- The bag as it is shown. -/
def shown (bag : ErrorBag) : String :=
  "ErrorBag(" ++ (Value.map (bag.messages.mapValues .list).entries).shown ++ ")"

/-- The messages given for one attribute: a text is one message, anything else its items. -/
def givenMessages : Value → Outcome (List Value)
  | .text message => .ok [.text message]
  | value => value.items

/-- Add the messages of some entries in order. What stands before an entry that cannot be gone
through has been added when that shows. -/
def addEntries (bag : ErrorBag) : List (Value × Value) → ErrorBag × Outcome Unit
  | [] => (bag, .ok ())
  | (name, value) :: rest =>
    match givenMessages value with
    | .ok messages => (bag.addEach name messages).addEntries rest
    | .error fault => (bag, .error fault)

/-- Add the messages of a map. -/
def addAll (bag : ErrorBag) (items : Value) : ErrorBag × Outcome Unit :=
  match items with
  | .map entries => bag.addEntries entries
  | _ => (bag, .error .notOffered)

end ErrorBag

end RecordValidation
