import RecordValidation.Pattern.Matcher

/-!
# Searching

A search tries a pattern at every place of a text, but passes over places whose character cannot
begin a match. What can begin one is told from the set of characters that the pattern begins with,
if it begins with one. The set is read under the flags of the whole pattern, even if it stands in a
group that chooses another kind of characters; such a group only ever begins where both readings
agree.
-/

namespace RecordValidation.Pattern

/-- What a node begins with. -/
inductive Lead
  /-- The node matches nothing and leaves the lead to what follows it. -/
  | none
  /-- A set of characters, under the flags of its place. -/
  | set (flags : Flags) (negated : Bool) (items : List SetItem)
  | other
  deriving DecidableEq

/-- The items of a set or a single character that is an alternative of its own. -/
def Node.alternativeItems? : Node → Option (List SetItem)
  | .sequence [.literal code] => some [.character code]
  | .sequence [.oneOf false items] => some items
  | _ => Option.none

/-- The one lead that all of some leads are. -/
def Lead.common : List Lead → Lead
  | [] => .other
  | lead :: rest => if rest.all (· == lead) then lead else .other

/-- The lead of a group: one that captures or switches flags is not passed over. -/
def Lead.ofGroup (isPlain : Bool) (lead : Lead) : Lead :=
  if lead == .none && !isPlain then .other else lead

mutual

/-- What a node begins with under some flags. -/
def Node.lead (flags : Flags) : Node → Lead
  | .oneOf negated items => .set flags negated items
  | .sequence items => Node.leadOfAll flags items
  | .branch alternatives =>
    match alternatives.mapM Node.alternativeItems? with
    | some items => .set flags false items.flatten
    | Option.none => .common (Node.leads flags alternatives)
  | .group index added removed body =>
    .ofGroup (index.isNone && added == .none && removed == .none)
      (body.lead (flags.within added removed))
  | _ => .other

/-- What nodes one after the other begin with. -/
def Node.leadOfAll (flags : Flags) : List Node → Lead
  | [] => .none
  | node :: rest =>
    match node.lead flags with
    | .none => Node.leadOfAll flags rest
    | lead => lead

/-- What each of some nodes begins with. -/
def Node.leads (flags : Flags) : List Node → List Lead
  | [] => []
  | node :: rest => node.lead flags :: Node.leads flags rest

end

/-- Whether a letter has another case. -/
def isCased (code : Nat) : Bool :=
  let c := Char.ofNat code
  Text.lowerPartner c != c || (unfolded false code).length != 1

/-- Whether case matters to a member of a set. -/
def SetItem.isCased : SetItem → Bool
  | .character code => Pattern.isCased code
  | .range first last =>
    0xFFFF < last
      || (List.range (last + 1 - first)).any fun offset => Pattern.isCased (first + offset)
  | .kind .. => false

/-- Whether a match can begin with a character. -/
def Lead.admits (whole : Flags) (c : Char) : Lead → Bool
  | .set flags negated items =>
    (flags.ignoreCase && items.any SetItem.isCased) || (items.any (·.contains whole c)) != negated
  | _ => true

/-- Whether a match can begin at a place. -/
def Lead.admitsAt (whole : Flags) (subject : Subject) (position : Nat) (lead : Lead) : Bool :=
  match subject[position]? with
  | some c => lead.admits whole c
  | Option.none => true

/-- Whether a pattern matches somewhere in a text. -/
def Node.occursIn (node : Node) (flags : Flags) (text : String) : Bool :=
  let subject := text.toList.toArray
  let lead := node.lead flags
  (List.range (subject.size + 1)).any fun position =>
    lead.admitsAt flags subject position
      && (node.matcher subject flags ⟨position, []⟩ some).isSome

end RecordValidation.Pattern
