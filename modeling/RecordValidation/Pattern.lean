import RecordValidation.Pattern.Reader
import RecordValidation.Pattern.Search

/-!
# Patterns

A pattern is what a format check looks for in a text. It keeps the text it was read from and the
flags in force for all of it: those it was made with and those it switches on itself.
-/

namespace RecordValidation

/-- A pattern that has been read. -/
structure Pattern where
  /-- The text it was read from. -/
  source : String
  /-- The flags in force for the whole pattern. -/
  flags : Pattern.Flags
  /-- What it matches. -/
  node : Pattern.Node

namespace Pattern

/-- Read a pattern under some flags. -/
def read (source : String) (flags : Flags) : Except Failure Pattern :=
  let characters := source.toList.toArray
  let start : Source :=
    { characters, index := 0, next := none, flags, widths := #[none], names := [],
      groupsBeforeLookBehind := none, awaited := [] }
  match (Reader.whole (Reader.limitFor characters.size)).run start with
  | .ok node final => .ok { source, flags := final.flags, node }
  | .error failure _ => .error failure

/-- Whether the pattern matches somewhere in a text. -/
def occursIn (pattern : Pattern) (text : String) : Bool :=
  pattern.node.occursIn pattern.flags text

instance : Inhabited Pattern := ⟨⟨"", Flags.none, .sequence []⟩⟩

end Pattern

end RecordValidation
