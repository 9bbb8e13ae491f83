import RecordValidation.Text.Quoted

/-!
# What can be wrong with a pattern

Each way a pattern can fail to be read is a cause of its own; `Problem.message` words it. A failure
also knows where it was noticed, and for a pattern of several lines its text names the line and the
column.
-/

namespace RecordValidation.Pattern

/-- A reason why a pattern cannot be read. -/
inductive Problem
  | endsInBackslash
  | badEscape (escape : String)
  | incompleteEscape (escape : String)
  | octalOutOfRange (escape : String)
  | missing (what : String)
  | unterminatedName (terminator : Char)
  | unknownCharacterName (name : String)
  | openGroupReference
  | lookBehindGroupReference
  | unknownGroupNumber (number : Nat)
  | unknownGroupName (name : String)
  | badGroupName (name : String)
  | badGroupNumber
  | redefinedGroup (name : String) (number earlier : Nat)
  | unterminatedSet
  | badRange (first last : String)
  | repeatBounds
  | nothingToRepeat
  | multipleRepeat
  | unexpectedEnd
  | unknownExtension (text : String)
  | unterminatedComment
  | unterminatedGroup
  | tooManyBranches
  | lateGlobalFlags
  | localeFlag
  | incompatibleFlags
  | unknownFlag
  | globalFlagOn
  | globalFlagOff
  | kindFlagOff
  | flagOnAndOff
  | unbalancedParenthesis
  | variableLookBehind
  deriving DecidableEq

/-- The wording of a problem. -/
def Problem.message : Problem → String
  | .endsInBackslash => "bad escape (end of pattern)"
  | .badEscape escape => s!"bad escape {escape}"
  | .incompleteEscape escape => s!"incomplete escape {escape}"
  | .octalOutOfRange escape => s!"octal escape value {escape} outside of range 0-0o377"
  | .missing what => s!"missing {what}"
  | .unterminatedName terminator => s!"missing {terminator}, unterminated name"
  | .unknownCharacterName name => s!"undefined character name {Text.quoted name}"
  | .openGroupReference => "cannot refer to an open group"
  | .lookBehindGroupReference =>
    "cannot refer to group defined in the same lookbehind subpattern"
  | .unknownGroupNumber number => s!"invalid group reference {number}"
  | .unknownGroupName name => s!"unknown group name {Text.quoted name}"
  | .badGroupName name => s!"bad character in group name {Text.quoted name}"
  | .badGroupNumber => "bad group number"
  | .redefinedGroup name number earlier =>
    s!"redefinition of group name {Text.quoted name} as group {number}; was group {earlier}"
  | .unterminatedSet => "unterminated character set"
  | .badRange first last => s!"bad character range {first}-{last}"
  | .repeatBounds => "min repeat greater than max repeat"
  | .nothingToRepeat => "nothing to repeat"
  | .multipleRepeat => "multiple repeat"
  | .unexpectedEnd => "unexpected end of pattern"
  | .unknownExtension text => s!"unknown extension ?{text}"
  | .unterminatedComment => "missing ), unterminated comment"
  | .unterminatedGroup => "missing ), unterminated subpattern"
  | .tooManyBranches => "conditional backref with more than two branches"
  | .lateGlobalFlags => "global flags not at the start of the expression"
  | .localeFlag => "bad inline flags: cannot use 'L' flag with a str pattern"
  | .incompatibleFlags => "bad inline flags: flags 'a', 'u' and 'L' are incompatible"
  | .unknownFlag => "unknown flag"
  | .globalFlagOn => "bad inline flags: cannot turn on global flag"
  | .globalFlagOff => "bad inline flags: cannot turn off global flag"
  | .kindFlagOff => "bad inline flags: cannot turn off flags 'a', 'u' and 'L'"
  | .flagOnAndOff => "bad inline flags: flag turned on and off"
  | .unbalancedParenthesis => "unbalanced parenthesis"
  | .variableLookBehind => "look-behind requires fixed-width pattern"

/-- Why reading a pattern stopped. -/
inductive Failure
  /-- The pattern is malformed; `position` counts characters from its start. -/
  | malformed (problem : Problem) (position : Option Nat)
  /-- A number of repetitions is beyond what can be counted. -/
  | countTooLarge
  /-- The whole pattern asks for two kinds of characters at once. -/
  | kindConflict
  deriving DecidableEq

/-- The text of a malformed pattern's problem: its wording, its position and, in a pattern of
several lines, line and column counted from one. -/
def describe (source : String) (problem : Problem) : Option Nat → String
  | none => problem.message
  | some position =>
    let before := source.toList.take position
    let line := before.count '\n' + 1
    let column := (before.reverse.takeWhile (· != '\n')).length + 1
    let place := s!"{problem.message} at position {position}"
    if source.toList.contains '\n' then s!"{place} (line {line}, column {column})" else place

end RecordValidation.Pattern
