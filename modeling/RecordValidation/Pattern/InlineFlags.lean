import RecordValidation.Pattern.Source
import RecordValidation.Text.Word

/-!
# Flags inside a pattern

After the opening of a group, letters switch flags on and, after a hyphen, off. A closing
parenthesis makes the flags hold for the whole pattern; a colon makes them hold for the body of the
group.
-/

namespace RecordValidation.Pattern.Reader

/-- Stop with a problem at a place of the pattern. -/
def failAt {α : Type} (problem : Problem) (place : Nat) : Reader α :=
  throw (.malformed problem (some place))

/-- Whether a character is the letter of a flag. -/
def isFlagLetter (c : Char) : Bool := c == 'L' || (Flags.ofLetter? c).isSome

/-- Stop at an item that is no flag: an unknown letter, or something else where `expected` should
be. -/
def failNoFlag {α : Type} (item : Item) (expected : String) : Reader α :=
  match item with
  | .plain c => fail (if Text.isLetter c then .unknownFlag else .missing expected) 1
  | .escape _ => fail (.missing expected) 2

/-- Read letters that switch flags on, from a given letter to a closing character, which is
returned. -/
def flagsOn : (limit : Nat) → (letter : Char) → (flags : Flags) → Reader (Flags × Char)
  | 0, _, _ => fail (.missing "-, : or )") 0
  | limit + 1, letter, flags => do
    match Flags.ofLetter? letter with
    | none => fail .localeFlag 0
    | some flag =>
      let flags := flags.union flag
      if flag.choosesKinds && flags.ascii && flags.unicode then fail .incompatibleFlags 0
      else
        match ← take with
        | none => fail (.missing "-, : or )") 0
        | some (.plain c) =>
          if c == ')' || c == '-' || c == ':' then return (flags, c)
          else if isFlagLetter c then flagsOn limit c flags
          else failNoFlag (.plain c) "-, : or )"
        | some item => failNoFlag item "-, : or )"

/-- Read letters that switch flags off, from a given letter to the colon. -/
def flagsOff : (limit : Nat) → (letter : Char) → (flags : Flags) → Reader Flags
  | 0, _, _ => fail (.missing ":") 0
  | limit + 1, letter, flags => do
    match Flags.ofLetter? letter with
    | none => fail .kindFlagOff 0
    | some flag =>
      if flag.choosesKinds then fail .kindFlagOff 0
      else
        let flags := flags.union flag
        match ← take with
        | none => fail (.missing ":") 0
        | some (.plain c) =>
          if c == ':' then return flags
          else if isFlagLetter c then flagsOff limit c flags
          else failNoFlag (.plain c) ":"
        | some item => failNoFlag item ":"

/-- The letters after the hyphen. -/
def flagsAfterHyphen (limit : Nat) : Reader Flags := do
  match ← take with
  | none => fail (.missing "flag") 0
  | some (.plain c) =>
    if isFlagLetter c then flagsOff limit c .none else failNoFlag (.plain c) "flag"
  | some item => failNoFlag item "flag"

/-- Read flags from their first letter or hyphen: those switched on and off for a group, or nothing
when they were given to the whole pattern. -/
def inlineFlags (limit : Nat) (first : Char) : Reader (Option (Flags × Flags)) := do
  let (added, closing) ← if first == '-' then pure (Flags.none, '-') else flagsOn limit first .none
  if closing == ')' then
    modify fun source => { source with flags := source.flags.union added }
    return none
  else if added.template then fail .globalFlagOn 1
  else
    let removed ← if closing == '-' then flagsAfterHyphen limit else pure Flags.none
    if removed.template then fail .globalFlagOff 1
    else if added.inter removed != .none then fail .flagOnAndOff 1
    else return some (added, removed)

end RecordValidation.Pattern.Reader
