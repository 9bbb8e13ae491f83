import RecordValidation.Pattern.Syntax
import RecordValidation.Text.LetterCase
import RecordValidation.Text.Blank
import RecordValidation.Text.Word

/-!
# Matching by trying

A node matches from a place in the text in some order of preference. `Matcher` is written with
continuations: a matcher is told what to do after it and tries its ways in order until what follows
succeeds too. Choices, repetitions and groups are combinators on matchers, so a pattern is matched
by recursion on its tree.

A repetition goes on past its least count only if the round before it moved on, which bounds the
number of rounds by the text that is left.
-/

namespace RecordValidation.Pattern

/-- A text to be matched. -/
abbrev Subject := Array Char

/-- How far a match has come, and what its groups have captured. -/
structure Progress where
  position : Nat
  captures : List (Nat × Nat × Nat)

/-- A way to match, given what is to match after it. -/
abbrev Matcher := Progress → (Progress → Option Progress) → Option Progress

/-! ## Characters -/

/-- The character a code point is compared as when case does not count. -/
def foldCode (ascii : Bool) (code : Nat) : Nat :=
  if ascii then (if 0x41 ≤ code ∧ code ≤ 0x5A then code + 0x20 else code)
  else (Text.lowerPartner (Char.ofNat code)).toNat

/-- Lower-case characters that share an upper-case form and match each other regardless of case. -/
def caseClasses : List (List Nat) := [
  [0x69, 0x131], [0x73, 0x17F], [0xB5, 0x3BC], [0x345, 0x3B9, 0x1FBE], [0x390, 0x1FD3],
  [0x3B0, 0x1FE3], [0x3B2, 0x3D0], [0x3B5, 0x3F5], [0x3B8, 0x3D1], [0x3BA, 0x3F0],
  [0x3C0, 0x3D6], [0x3C1, 0x3F1], [0x3C2, 0x3C3], [0x3C6, 0x3D5], [0x432, 0x1C80],
  [0x434, 0x1C81], [0x43E, 0x1C82], [0x441, 0x1C83], [0x442, 0x1C84, 0x1C85], [0x44A, 0x1C86],
  [0x463, 0x1C87], [0x1C88, 0xA64B], [0x1E61, 0x1E9B], [0xFB05, 0xFB06]]

/-- The code points that a folded code point matches, itself included. -/
def equivalents (ascii : Bool) (code : Nat) : List Nat :=
  if ascii then [code] else (caseClasses.find? (·.contains code)).getD [code]

/-- The code points that fold to a given one. -/
def unfolded (ascii : Bool) (code : Nat) : List Nat :=
  if ascii then (if 0x61 ≤ code ∧ code ≤ 0x7A then [code, code - 0x20] else [code])
  else
    let capitals := Text.lowerRuns.filterMap fun run =>
      let capital := Int.toNat (code - run.shift)
      if run.partner? capital == some code then some capital else none
    if code = 0x69 then code :: 0x130 :: capitals else code :: capitals

/-- Whether a character of the text stands for a code point of the pattern. -/
def matchesCode (flags : Flags) (code : Nat) (c : Char) : Bool :=
  if flags.ignoreCase then
    (equivalents flags.ascii (foldCode flags.ascii code)).contains (foldCode flags.ascii c.toNat)
  else c.toNat == code

/-- Whether a character is of a kind. -/
def Kind.contains (ascii : Bool) (c : Char) : Kind → Bool
  | .digit => if ascii then '0' ≤ c && c ≤ '9' else Text.isDigit c
  | .blank => if ascii then c == ' ' || (9 ≤ c.toNat && c.toNat ≤ 13) else Text.isBlank c
  | .word =>
    if ascii then c.toNat < 128 && Text.isWord c else Text.isWord c

/-- Whether a character belongs to a member of a set. -/
def SetItem.contains (flags : Flags) (c : Char) : SetItem → Bool
  | .character code => matchesCode flags code c
  | .range first last =>
    if flags.ignoreCase then
      let folded := foldCode flags.ascii c.toNat
      ((equivalents flags.ascii folded).flatMap (unfolded flags.ascii)).any fun code =>
        first ≤ code && code ≤ last
    else first ≤ c.toNat && c.toNat ≤ last
  | .kind members negated => members.contains flags.ascii c != negated

/-! ## Places -/

/-- The character before a place. -/
def before? (subject : Subject) (position : Nat) : Option Char :=
  if position = 0 then none else subject[position - 1]?

/-- Whether the character at a place is part of a word. -/
def isWordAt (ascii : Bool) (c : Option Char) : Bool :=
  (c.map fun c => Kind.contains ascii c .word).getD false

/-- Whether words begin or end at a place. -/
def isBoundary (flags : Flags) (subject : Subject) (position : Nat) : Bool :=
  isWordAt flags.ascii (before? subject position) != isWordAt flags.ascii subject[position]?

/-- Whether an anchor holds at a place. In an empty text there is neither a boundary nor an inside
of a word. -/
def Anchor.holds (flags : Flags) (subject : Subject) (position : Nat) : Anchor → Bool
  | .start => position == 0 || (flags.multiLine && before? subject position == some '\n')
  | .finish =>
    position == subject.size
      || (subject[position]? == some '\n' && (flags.multiLine || position + 1 == subject.size))
  | .textStart => position == 0
  | .textEnd => position == subject.size
  | .boundary => !subject.isEmpty && isBoundary flags subject position
  | .insideWord => !subject.isEmpty && !isBoundary flags subject position

/-! ## Combinators -/

namespace Matcher

/-- Match one character with a property. -/
def character (subject : Subject) (wanted : Char → Bool) : Matcher := fun progress next =>
  match subject[progress.position]? with
  | some c =>
    if wanted c then next { progress with position := progress.position + 1 } else none
  | none => none

/-- Match nothing, if a condition on the progress holds. -/
def guarded (condition : Progress → Bool) : Matcher := fun progress next =>
  if condition progress then next progress else none

/-- One matcher after the other. -/
def andThen (first second : Matcher) : Matcher := fun progress next =>
  first progress fun middle => second middle next

/-- One matcher, or else the other. -/
def orElse (first second : Matcher) : Matcher := fun progress next =>
  match first progress next with
  | some finished => some finished
  | none => second progress next

/-- Match the body in its first way only. -/
def once (body : Matcher) : Matcher := fun progress next =>
  (body progress some).bind next

/-- Capture what the body matches. -/
def capture (index : Nat) (body : Matcher) : Matcher := fun progress next =>
  body progress fun finished =>
    next { finished with
      captures := (index, progress.position, finished.position) :: finished.captures }

/-- Match nothing, if the body matches from `start` of the current place. -/
def look (negated : Bool) (start : Nat → Option Nat) (body : Matcher) : Matcher :=
  fun progress next =>
    match start progress.position with
    | none => if negated then next progress else none
    | some position =>
      match body { progress with position } some with
      | some found =>
        if negated then none else next { progress with captures := found.captures }
      | none => if negated then next progress else none

/-- Match the same characters as from `start` to `finish`, up to folding. -/
def sameAs (subject : Subject) (fold : Nat → Nat) (start finish : Nat) : Matcher :=
  fun progress next =>
    let length := finish - start
    let agree := (List.range length).all fun offset =>
      match subject[start + offset]?, subject[progress.position + offset]? with
      | some c, some d => fold c.toNat == fold d.toNat
      | _, _ => false
    if agree then next { progress with position := progress.position + length } else none

/-- Whether another round may follow after `count` rounds, the last of which began at `last`. -/
def mayGoOn (most : Option Nat) (count position : Nat) (last : Option Nat) : Bool :=
  (most.map fun bound => decide (count < bound)).getD true && last != some position

/-- As many rounds as possible first. -/
def greedy (body : Matcher) (least : Nat) (most : Option Nat) :
    (rounds count : Nat) → (last : Option Nat) → Matcher
  | 0, _, _, progress, next => next progress
  | rounds + 1, count, last, progress, next =>
    if count < least then
      body progress fun after => greedy body least most rounds (count + 1) last after next
    else if mayGoOn most count progress.position last then
      match body progress fun after =>
          greedy body least most rounds (count + 1) (some progress.position) after next with
      | some finished => some finished
      | none => next progress
    else next progress

/-- As few rounds as possible first. -/
def lazy (body : Matcher) (least : Nat) (most : Option Nat) :
    (rounds count : Nat) → (last : Option Nat) → Matcher
  | 0, _, _, progress, next => next progress
  | rounds + 1, count, last, progress, next =>
    if count < least then
      body progress fun after => lazy body least most rounds (count + 1) last after next
    else
      match next progress with
      | some finished => some finished
      | none =>
        if mayGoOn most count progress.position last then
          body progress fun after =>
            lazy body least most rounds (count + 1) (some progress.position) after next
        else none

/-- As many rounds as possible, each in its first way only. -/
def possessive (body : Matcher) (least : Nat) (most : Option Nat) :
    (rounds count : Nat) → (last : Option Nat) → Matcher
  | 0, _, _, progress, next => next progress
  | rounds + 1, count, last, progress, next =>
    if count < least then
      (body progress some).bind fun after =>
        possessive body least most rounds (count + 1) last after next
    else if mayGoOn most count progress.position last then
      match body progress some with
      | some after =>
        possessive body least most rounds (count + 1) (some progress.position) after next
      | none => next progress
    else next progress

/-- A repetition. The number of rounds is bounded by the least count and the text that is left. -/
def repetition (subject : Subject) (greed : Greed) (least : Nat) (most : Option Nat)
    (body : Matcher) : Matcher := fun progress next =>
  let rounds := least + (subject.size - progress.position) + 2
  match greed with
  | .greedy => greedy body least most rounds 0 none progress next
  | .lazy => lazy body least most rounds 0 none progress next
  | .possessive => possessive body least most rounds 0 none progress next

end Matcher

/-! ## Trees -/

mutual

/-- The matcher of a node under some flags. -/
def Node.matcher (subject : Subject) (flags : Flags) : Node → Matcher
  | .literal code => .character subject (matchesCode flags code)
  | .otherThan code => .character subject fun c => !matchesCode flags code c
  | .any => .character subject fun c => flags.dotAll || c != '\n'
  | .oneOf negated items =>
    .character subject fun c => (items.any (·.contains flags c)) != negated
  | .anchor place => .guarded fun progress => place.holds flags subject progress.position
  | .sequence items => Node.sequenceMatcher subject flags items
  | .branch alternatives => Node.choiceMatcher subject flags alternatives
  | .group index added removed body =>
    let inner := body.matcher subject (flags.within added removed)
    match index with
    | some index => .capture index inner
    | none => inner
  | .atomic body => .once (body.matcher subject flags)
  | .repetition greed least most body =>
    .repetition subject greed least most (body.matcher subject flags)
  | .lookAhead negated body => .look negated some (body.matcher subject flags)
  | .lookBehind negated width body =>
    .look negated (fun position => if width.least ≤ position then some (position - width.least)
      else none) (body.matcher subject flags)
  | .backreference index => fun progress next =>
    match progress.captures.lookup index with
    | some (start, finish) =>
      Matcher.sameAs subject (if flags.ignoreCase then foldCode flags.ascii else id) start finish
        progress next
    | none => none
  | .conditional index yes no => fun progress next =>
    if (progress.captures.lookup index).isSome then yes.matcher subject flags progress next
    else no.matcher subject flags progress next
  | .never => fun _ _ => none

/-- The matcher of nodes one after the other. -/
def Node.sequenceMatcher (subject : Subject) (flags : Flags) : List Node → Matcher
  | [] => fun progress next => next progress
  | node :: rest => .andThen (node.matcher subject flags) (Node.sequenceMatcher subject flags rest)

/-- The matcher of a choice of nodes. -/
def Node.choiceMatcher (subject : Subject) (flags : Flags) : List Node → Matcher
  | [] => fun _ _ => none
  | node :: rest => .orElse (node.matcher subject flags) (Node.choiceMatcher subject flags rest)

end

end RecordValidation.Pattern
