import RecordValidation.Pattern.Escape
import RecordValidation.Pattern.InlineFlags

/-!
# Reading patterns

A pattern is a choice of sequences. A sequence is read item by item: characters, escapes, sets,
anchors and groups are added to it, and a repetition takes the place of what was added last. What
goes wrong first, in the order of reading, is what is reported.

The functions take the number of steps they may still make; `limitFor` grants more than a pattern of
that length can use, since every step but a bounded number consumes an item.
-/

namespace RecordValidation.Pattern.Reader

/-- The number of steps granted to a pattern of some length. -/
def limitFor (length : Nat) : Nat := 8 * length + 16

/-- The greatest number of groups. -/
def maxGroups : Nat := 1073741823

/-- Blanks that a verbose pattern skips. -/
def isPatternBlank (c : Char) : Bool :=
  c == ' ' || c == '\t' || c == '\n' || c == '\r' || c.toNat == 11 || c.toNat == 12

/-- Skip a comment up to the end of its line. -/
def skipLine : (limit : Nat) → Reader Unit
  | 0 => return ()
  | limit + 1 => do
    match ← take with
    | none => return ()
    | some item => if item = .plain '\n' then return () else skipLine limit

/-- Skip a comment group, opened at `start`, up to its closing parenthesis. -/
def skipComment (start : Nat) : (limit : Nat) → Reader Unit
  | 0 => failAt .unterminatedComment start
  | limit + 1 => do
    match ← peek with
    | none => failAt .unterminatedComment start
    | some item =>
      advance
      if item = .plain ')' then return () else skipComment start limit

/-- The member of a set that an item stands for. -/
def setItem (limit : Nat) : Item → Reader SetItem
  | .escape c => setEscape limit c
  | .plain c => return .character c.toNat

/-- The range between two members, which have to be characters in order. -/
def rangeItem (first last : Item) : SetItem → SetItem → Reader SetItem
  | .character low, .character high =>
    if high < low then
      fail (.badRange first.text last.text) (first.length + 1 + last.length)
    else return .range low high
  | _, _ => fail (.badRange first.text last.text) (first.length + 1 + last.length)

/-- Read the members of a set opened at `start`, up to its closing bracket. A bracket that comes
first is a member. -/
def setItems (start : Nat) : (limit : Nat) → (done : List SetItem) → Reader (List SetItem)
  | 0, _ => failAt .unterminatedSet start
  | limit + 1, done => do
    match ← take with
    | none => failAt .unterminatedSet start
    | some first =>
      if first = .plain ']' && !done.isEmpty then return done
      else
        let low ← setItem limit first
        if ← accept '-' then
          match ← take with
          | none => failAt .unterminatedSet start
          | some last =>
            if last = .plain ']' then return done ++ [low, .character '-'.toNat]
            else
              let high ← setItem limit last
              setItems start limit (done ++ [← rangeItem first last low high])
        else setItems start limit (done ++ [low])

/-- A set as a node; a single character needs no set. -/
def setNode (negated : Bool) (items : List SetItem) : Node :=
  match items.eraseDups with
  | [.character code] => if negated then .otherThan code else .literal code
  | items => .oneOf negated items

/-- A set, opened at `start`. -/
def set (limit start : Nat) : Reader Node := do
  let negated ← accept '^'
  return setNode negated (← setItems start limit [])

/-- A number of repetitions, if digits were given. -/
def count? (digits : List Char) : Reader (Option Nat) :=
  if digits.isEmpty then return none
  else
    let value := valueIn 10 digits
    if unbounded ≤ value then throw .countTooLarge else return some value

/-- The bounds between braces, after the opening one; nothing when the brace stands for itself. -/
def bounds? (limit start : Nat) : Reader (Option (Nat × Option Nat)) := do
  if (← peek) == some (.plain '\x7d') then return none
  else
    let low ← takeWhile Numeral.isAsciiDigit limit
    let high ← if ← accept ',' then takeWhile Numeral.isAsciiDigit limit else pure low
    if ← accept '\x7d' then
      let least ← count? low
      let most ← count? high
      match most with
      | none => return some (least.getD 0, none)
      | some most =>
        if most < least.getD 0 then failAt .repeatBounds start
        else return some (least.getD 0, some most)
    else
      seek start
      return none

/-- The bounds of a repetition sign. -/
def repetitionBounds? (limit start : Nat) (sign : Char) : Reader (Option (Nat × Option Nat)) :=
  match sign with
  | '?' => return some (0, some 1)
  | '*' => return some (0, none)
  | '+' => return some (1, none)
  | _ => bounds? limit start

/-- How a repetition is tried, by the sign after it. -/
def greed : Reader Greed := do
  if ← accept '?' then return .lazy
  else if ← accept '+' then return .possessive
  else return .greedy

/-- Put a repetition in the place of the node that was added last; `start` is the place after the
sign. -/
def repeatLast (start : Nat) (bounds : Nat × Option Nat) : List Node → Reader (List Node)
  | [] => failAt .nothingToRepeat (start - 1)
  | .anchor _ :: _ => failAt .nothingToRepeat (start - 1)
  | .repetition _ _ _ _ :: _ => failAt .multipleRepeat (start - 1)
  | node :: before => do return .repetition (← greed) bounds.1 bounds.2 node :: before

/-- A name between delimiters, which has to be an identifier. -/
def groupName (limit : Nat) (terminator : Char) : Reader String := do
  let name ← takeUntil terminator "group name" limit []
  if Text.isIdentifier name then return name else fail (.badGroupName name) (name.length + 1)

/-- A reference by name. -/
def nameReference (limit : Nat) : Reader Node := do
  let name ← groupName limit ')'
  let source ← get
  match source.names.lookup name with
  | none => fail (.unknownGroupName name) (name.length + 1)
  | some index =>
    if isClosed source index then
      checkLookBehind index
      return .backreference index
    else fail .openGroupReference (name.length + 1)

/-- A group number as it may stand in a condition: decimal digits of any script with single
underscores between them, a sign and blanks around. -/
def groupNumber? (name : String) : Option Nat :=
  let characters := (Text.trimCharacters name.toList).map Numeral.asciiDigit
  let digits := Numeral.afterSign characters
  match Numeral.withoutUnderscores? false digits with
  | none => none
  | some digits =>
    if digits.isEmpty || !digits.all Numeral.isAsciiDigit then none
    else
      let value := valueIn 10 digits
      if Numeral.isNegative characters && value != 0 then none else some value

/-- The group that a condition names. -/
def conditionGroup (limit : Nat) : Reader Nat := do
  let name ← takeUntil ')' "group name" limit []
  let source ← get
  if Text.isIdentifier name then
    match source.names.lookup name with
    | none => fail (.unknownGroupName name) (name.length + 1)
    | some index => return index
  else
    match groupNumber? name with
    | none => fail (.badGroupName name) (name.length + 1)
    | some 0 => fail .badGroupNumber (name.length + 1)
    | some index =>
      if maxGroups ≤ index then fail (.unknownGroupNumber index) (name.length + 1)
      else
        if (source.awaited.lookup index).isNone then
          let place := position source - name.length - 1
          modify fun source => { source with awaited := source.awaited ++ [(index, place)] }
        return index

/-- What stands after the opening of a group. -/
inductive Opening
  /-- Nothing of its own: a comment, or flags for the whole pattern. -/
  | skipped
  /-- Flags for the whole pattern. -/
  | wholeFlags
  /-- A node that is complete. -/
  | complete (node : Node)
  | captured (name : Option String)
  | plain (added removed : Flags)
  | atomic
  | lookAhead (negated : Bool)
  | lookBehind (negated : Bool)
  | condition

/-- Read what follows `(?P`. -/
def extendedOpening (limit : Nat) : Reader Opening := do
  if ← accept '<' then return .captured (some (← groupName limit '>'))
  else if ← accept '=' then return .complete (← nameReference limit)
  else
    match ← take with
    | none => fail .unexpectedEnd 0
    | some item => fail (.unknownExtension ("P" ++ item.text)) (item.length + 2)

/-- Read what follows `(?<`. -/
def behindOpening : Reader Opening := do
  match ← take with
  | none => fail .unexpectedEnd 0
  | some item =>
    if item = .plain '=' then return .lookBehind false
    else if item = .plain '!' then return .lookBehind true
    else fail (.unknownExtension ("<" ++ item.text)) (item.length + 2)

/-- Read the opening of a group that starts at `start`. -/
def opening (limit start : Nat) : Reader Opening := do
  if ← accept '?' then
    match ← take with
    | none => fail .unexpectedEnd 0
    | some (.escape c) => fail (.unknownExtension (Item.escape c).text) 3
    | some (.plain c) =>
      match c with
      | 'P' => extendedOpening limit
      | ':' => return .plain .none .none
      | '#' =>
        skipComment start limit
        return .skipped
      | '=' => return .lookAhead false
      | '!' => return .lookAhead true
      | '<' => behindOpening
      | '(' => return .condition
      | '>' => return .atomic
      | c =>
        if isFlagLetter c || c == '-' then
          match ← inlineFlags limit c with
          | none => return .wholeFlags
          | some (added, removed) => return .plain added removed
        else fail (.unknownExtension c.toString) 2
  else return .captured none

/-- Take the parenthesis that closes the group opened at `start`. -/
def close (start : Nat) : Reader Unit := do
  if ← accept ')' then return () else failAt .unterminatedGroup start

mutual

/-- Read a choice of sequences. -/
def choice (verbose nested : Bool) : (limit : Nat) → Reader Node
  | 0 => fail .unexpectedEnd 0
  | limit + 1 => do
    let items ← alternatives verbose nested (!nested) limit
    match items with
    | [item] => return item
    | items => return .branch items

/-- Read the sequences of a choice. -/
def alternatives (verbose nested first : Bool) : (limit : Nat) → Reader (List Node)
  | 0 => fail .unexpectedEnd 0
  | limit + 1 => do
    let item ← sequence verbose first [] limit
    if ← accept '|' then
      let source ← get
      let verbose := if nested then verbose else source.flags.verbose
      return item :: (← alternatives verbose nested false limit)
    else return [item]

/-- Read a sequence on from the nodes read so far, the last one first. Flags for the whole pattern
may stand only where `first` allows and nothing was read. -/
def sequence (verbose first : Bool) (done : List Node) : (limit : Nat) → Reader Node
  | 0 => fail .unexpectedEnd 0
  | limit + 1 => do
    match ← peek with
    | none => return .sequence done.reverse
    | some (.escape c) =>
      advance
      let node ← escape limit c
      sequence verbose first (node :: done) limit
    | some (.plain c) =>
      if c == '|' || c == ')' then return .sequence done.reverse
      else
        advance
        let start := position (← get) - 1
        if verbose && isPatternBlank c then sequence verbose first done limit
        else if verbose && c == '#' then
          skipLine limit
          sequence verbose first done limit
        else if c == '[' then
          let node ← set limit start
          sequence verbose first (node :: done) limit
        else if c == '*' || c == '+' || c == '?' || c == '\x7b' then
          match ← repetitionBounds? limit (start + 1) c with
          | none => sequence verbose first (.literal c.toNat :: done) limit
          | some bounds =>
            let done ← repeatLast (start + 1) bounds done
            sequence verbose first done limit
        else if c == '.' then sequence verbose first (.any :: done) limit
        else if c == '^' then sequence verbose first (.anchor .start :: done) limit
        else if c == '$' then sequence verbose first (.anchor .finish :: done) limit
        else if c == '(' then
          match ← opening limit start with
          | .skipped => sequence verbose first done limit
          | .wholeFlags =>
            let source ← get
            if first && done.isEmpty then sequence source.flags.verbose first done limit
            else failAt .lateGlobalFlags start
          | .complete node => sequence verbose first (node :: done) limit
          | other =>
            let node ← groupBody verbose start other limit
            sequence verbose first (node :: done) limit
        else sequence verbose first (.literal c.toNat :: done) limit

/-- Read the body of a group opened at `start`, and its closing parenthesis. -/
def groupBody (verbose : Bool) (start : Nat) (kind : Opening) : (limit : Nat) → Reader Node
  | 0 => fail .unexpectedEnd 0
  | limit + 1 => do
    match kind with
    | .captured name =>
      let index ← openGroup name ((name.map String.length).getD 0 + 1)
      let body ← choice verbose true limit
      close start
      closeGroup index body
      return .group (some index) .none .none body
    | .plain added removed =>
      let body ← choice ((verbose || added.verbose) && !removed.verbose) true limit
      close start
      return .group none added removed body
    | .atomic =>
      let body ← choice verbose true limit
      close start
      return .atomic body
    | .lookAhead negated =>
      let body ← choice verbose true limit
      close start
      return if negated && body.isEmpty then .never else .lookAhead negated body
    | .lookBehind negated =>
      let outer := (← get).groupsBeforeLookBehind
      modify fun source =>
        { source with groupsBeforeLookBehind := some (outer.getD (groupCount source)) }
      let body ← choice verbose true limit
      modify fun source => { source with groupsBeforeLookBehind := outer }
      close start
      let width := body.width (capturedWidth (← get))
      return if negated && body.isEmpty then .never else .lookBehind negated width body
    | .condition =>
      let index ← conditionGroup limit
      checkLookBehind index
      let yes ← sequence verbose false [] limit
      let no ←
        if ← accept '|' then
          let no ← sequence verbose false [] limit
          if (← peek) == some (.plain '|') then fail .tooManyBranches 0 else pure no
        else pure (.sequence [])
      close start
      return .conditional index yes no
    | _ => return .sequence []

end

/-- Read a whole pattern. -/
def whole (limit : Nat) : Reader Node := do
  advance
  let node ← choice (← get).flags.verbose false limit
  let source ← get
  if source.flags.ascii && source.flags.unicode then throw .kindConflict
  else if source.next.isSome then fail .unbalancedParenthesis 0
  else
    match source.awaited.find? fun entry => groupCount source ≤ entry.1 with
    | some (index, place) => failAt (.unknownGroupNumber index) place
    | none =>
      if node.lookBehindsFixed then return node
      else throw (.malformed .variableLookBehind none)

end RecordValidation.Pattern.Reader
