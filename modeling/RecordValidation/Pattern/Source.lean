import RecordValidation.Pattern.Problem
import RecordValidation.Pattern.Width

/-!
# Reading a pattern item by item

A pattern is read as items: single characters, and backslashes together with the character after
them. The reader always holds the next item, so a pattern that ends in a backslash fails as soon as
the item before it has been taken. Beside its place in the text the reader keeps what it knows of
the groups so far: their names, the widths of the closed ones, and the references that await a
group.
-/

namespace RecordValidation.Pattern

/-- An item of a pattern. -/
inductive Item
  | plain (c : Char)
  | escape (c : Char)
  deriving DecidableEq

/-- The characters an item was read from. -/
def Item.characters : Item → List Char
  | .plain c => [c]
  | .escape c => ['\\', c]

/-- The text an item was read from. -/
def Item.text (item : Item) : String := String.ofList item.characters

/-- How many characters an item takes. -/
def Item.length (item : Item) : Nat := item.characters.length

/-- The state of a reader. -/
structure Source where
  /-- The whole pattern. -/
  characters : Array Char
  /-- Where the item after the next one starts. -/
  index : Nat
  /-- The next item, if the pattern has not ended. -/
  next : Option Item
  /-- Flags given for the whole pattern. -/
  flags : Flags
  /-- The widths of the groups, those of open ones absent; the whole pattern is number zero. -/
  widths : Array (Option Width)
  /-- The numbers of the named groups. -/
  names : List (String × Nat)
  /-- Inside a look-behind, the number of groups that were there before it. -/
  groupsBeforeLookBehind : Option Nat
  /-- Group numbers that conditions named, with the places where they did. -/
  awaited : List (Nat × Nat)

/-- Reading, which may stop with a failure. -/
abbrev Reader := EStateM Failure Source

namespace Reader

/-- Where the next item starts. -/
def position (source : Source) : Nat :=
  source.index - (source.next.map Item.length).getD 0

/-- Stop with a problem noticed `back` characters before the next item. -/
def fail {α : Type} (problem : Problem) (back : Nat) : Reader α := do
  throw (.malformed problem (some (position (← get) - back)))

/-- Move on by one item. -/
def advance : Reader Unit := do
  let source ← get
  match source.characters[source.index]? with
  | none => set { source with next := none }
  | some '\\' =>
    match source.characters[source.index + 1]? with
    | none => throw (.malformed .endsInBackslash (some (source.characters.size - 1)))
    | some c => set { source with next := some (.escape c), index := source.index + 2 }
  | some c => set { source with next := some (.plain c), index := source.index + 1 }

/-- Go to a place in the pattern. -/
def seek (index : Nat) : Reader Unit := do
  modify fun source => { source with index }
  advance

/-- The next item, left where it is. -/
def peek : Reader (Option Item) := return (← get).next

/-- Take the next item. -/
def take : Reader (Option Item) := do
  let item ← peek
  advance
  return item

/-- Take the next item if it is the given character. -/
def accept (c : Char) : Reader Bool := do
  if (← peek) == some (.plain c) then
    advance
    return true
  else return false

/-- The next item if it is a character with a property. -/
def peekIf (wanted : Char → Bool) : Reader (Option Char) := do
  match ← peek with
  | some (.plain c) => return if wanted c then some c else none
  | _ => return none

/-- Take up to `count` characters with a property. -/
def takeWhile (wanted : Char → Bool) : (count : Nat) → Reader (List Char)
  | 0 => return []
  | count + 1 => do
    match ← peekIf wanted with
    | none => return []
    | some c =>
      advance
      return c :: (← takeWhile wanted count)

/-- Take items up to a closing character, which is taken too. The name before it must not be empty;
`limit` bounds the number of items. -/
def takeUntil (terminator : Char) (what : String) :
    (limit : Nat) → (taken : List Char) → Reader String
  | 0, _ => fail (.missing what) 0
  | limit + 1, taken => do
    match ← take with
    | none =>
      if taken.isEmpty then fail (.missing what) 0
      else fail (.unterminatedName terminator) taken.length
    | some item =>
      if item = .plain terminator then
        if taken.isEmpty then fail (.missing what) 1 else return String.ofList taken
      else takeUntil terminator what limit (taken ++ item.characters)

/-- The number of groups opened so far, the whole pattern included. -/
def groupCount (source : Source) : Nat := source.widths.size

/-- Whether a group is closed. -/
def isClosed (source : Source) (index : Nat) : Bool :=
  ((source.widths[index]?).getD none).isSome

/-- The widths of closed groups. -/
def capturedWidth (source : Source) (index : Nat) : Width :=
  ((source.widths[index]?).getD none).getD ⟨0, 0⟩

/-- Open a group and give it the next number. The name is `back` characters behind. -/
def openGroup (name : Option String) (back : Nat) : Reader Nat := do
  let source ← get
  let index := groupCount source
  let source := { source with widths := source.widths.push none }
  match name with
  | none => set source
  | some name =>
    match source.names.lookup name with
    | some earlier =>
      set source
      fail (.redefinedGroup name index earlier) back
    | none => set { source with names := (name, index) :: source.names }
  return index

/-- Close a group with the width of its body. -/
def closeGroup (index : Nat) (body : Node) : Reader Unit :=
  modify fun source =>
    { source with widths := source.widths.set! index (some (body.width (capturedWidth source))) }

/-- Refuse a reference inside a look-behind to a group that the same look-behind has opened. -/
def checkLookBehind (index : Nat) : Reader Unit := do
  let source ← get
  match source.groupsBeforeLookBehind with
  | none => return ()
  | some limit =>
    if !isClosed source index then fail .openGroupReference 0
    else if limit ≤ index then fail .lookBehindGroupReference 0
    else return ()

end Reader

end RecordValidation.Pattern
