/-!
# The syntax of patterns

A pattern is a tree. Characters are given by their code points, so that an escape may name any code
point. A group may switch flags on and off for its body; the other nodes are read under the flags in
force where they stand.
-/

namespace RecordValidation.Pattern

/-- The switches that change how a pattern is read or matched. -/
structure Flags where
  /-- Letters match regardless of case. -/
  ignoreCase : Bool := false
  /-- Line ends count as ends of the text for the line anchors. -/
  multiLine : Bool := false
  /-- The dot also matches a line feed. -/
  dotAll : Bool := false
  /-- Blanks and comments in the pattern are skipped. -/
  verbose : Bool := false
  /-- Character kinds are those of ASCII. -/
  ascii : Bool := false
  /-- Character kinds are those of Unicode, asked for explicitly. -/
  unicode : Bool := false
  /-- A switch without effect on matching that only a whole pattern may have. -/
  template : Bool := false
  deriving DecidableEq, Inhabited

namespace Flags

/-- No switch is on. -/
def none : Flags := {}

/-- The switches on in either. -/
def union (a b : Flags) : Flags where
  ignoreCase := a.ignoreCase || b.ignoreCase
  multiLine := a.multiLine || b.multiLine
  dotAll := a.dotAll || b.dotAll
  verbose := a.verbose || b.verbose
  ascii := a.ascii || b.ascii
  unicode := a.unicode || b.unicode
  template := a.template || b.template

/-- The switches on in both. -/
def inter (a b : Flags) : Flags where
  ignoreCase := a.ignoreCase && b.ignoreCase
  multiLine := a.multiLine && b.multiLine
  dotAll := a.dotAll && b.dotAll
  verbose := a.verbose && b.verbose
  ascii := a.ascii && b.ascii
  unicode := a.unicode && b.unicode
  template := a.template && b.template

/-- The switches on in the first and off in the second. -/
def diff (a b : Flags) : Flags where
  ignoreCase := a.ignoreCase && !b.ignoreCase
  multiLine := a.multiLine && !b.multiLine
  dotAll := a.dotAll && !b.dotAll
  verbose := a.verbose && !b.verbose
  ascii := a.ascii && !b.ascii
  unicode := a.unicode && !b.unicode
  template := a.template && !b.template

/-- Whether one of the switches between character kinds is on. -/
def choosesKinds (flags : Flags) : Bool := flags.ascii || flags.unicode

/-- The switch a letter stands for. -/
def ofLetter? : Char → Option Flags
  | 'i' => some { ignoreCase := true }
  | 'm' => some { multiLine := true }
  | 's' => some { dotAll := true }
  | 'x' => some { verbose := true }
  | 'a' => some { ascii := true }
  | 'u' => some { unicode := true }
  | 't' => some { template := true }
  | _ => Option.none

/-- The flags in a group that switches some on and some off. A chosen kind of characters replaces
the one in force. -/
def within (flags added removed : Flags) : Flags :=
  let kept := if added.choosesKinds then { flags with ascii := false, unicode := false } else flags
  (kept.union added).diff removed

end Flags

/-- The kinds of characters that have an escape of their own. -/
inductive Kind
  | digit
  | blank
  | word
  deriving DecidableEq

/-- A member of a character set. -/
inductive SetItem
  | character (code : Nat)
  | range (first last : Nat)
  | kind (kind : Kind) (negated : Bool)
  deriving DecidableEq

/-- A place in the text. -/
inductive Anchor
  /-- The start of the text, or of a line under `multiLine`. -/
  | start
  /-- The end of the text or before a final line feed, or the end of a line under `multiLine`. -/
  | finish
  | textStart
  | textEnd
  | boundary
  | insideWord
  deriving DecidableEq

/-- How many repetitions are tried first, and whether fewer or more are tried later. -/
inductive Greed
  | greedy
  | lazy
  | possessive
  deriving DecidableEq

/-- The least and the greatest length of what a node matches. -/
structure Width where
  least : Nat
  most : Nat
  deriving DecidableEq, Inhabited

/-- A pattern, or a part of one. -/
inductive Node
  | literal (code : Nat)
  | otherThan (code : Nat)
  | any
  | oneOf (negated : Bool) (items : List SetItem)
  | anchor (place : Anchor)
  | sequence (items : List Node)
  | branch (alternatives : List Node)
  /-- A group: captured under `index` if it has one. -/
  | group (index : Option Nat) (added removed : Flags) (body : Node)
  /-- A group whose first way to match is the only one. -/
  | atomic (body : Node)
  | repetition (greed : Greed) (least : Nat) (most : Option Nat) (body : Node)
  /-- Whether the body matches from here on. -/
  | lookAhead (negated : Bool) (body : Node)
  /-- Whether the body, of the given width, matches up to here. -/
  | lookBehind (negated : Bool) (width : Width) (body : Node)
  /-- The text a group has captured. -/
  | backreference (index : Nat)
  /-- One of two nodes, as a group has captured something or not. -/
  | conditional (index : Nat) (yes no : Node)
  | never

instance : Inhabited Node := ⟨.sequence []⟩

/-- Whether nothing was read. -/
def Node.isEmpty : Node → Bool
  | .sequence [] => true
  | _ => false

end RecordValidation.Pattern
