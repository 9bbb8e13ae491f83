import RecordValidation.Pattern.Syntax

/-!
# Widths

How many characters a node can match at the least and at the most. Widths are cut off at a limit
that stands for "without bound". A look-behind needs a body whose two widths agree.
-/

namespace RecordValidation.Pattern

/-- The width that stands for "without bound". -/
def unbounded : Nat := 4294967295

/-- A width cut off at the limit. -/
def Width.limited (width : Width) : Width :=
  ⟨min width.least (unbounded - 1), min width.most unbounded⟩

mutual

/-- The width of a node; `captured` gives the widths of closed groups. -/
def Node.width (captured : Nat → Width) : Node → Width
  | .literal _ | .otherThan _ | .any | .oneOf _ _ => ⟨1, 1⟩
  | .anchor _ | .lookAhead _ _ | .lookBehind _ _ _ | .never => ⟨0, 0⟩
  | .sequence items => (Node.totalWidth captured items).limited
  | .branch alternatives => (Node.joinedWidth captured alternatives).limited
  | .group _ _ _ body => body.width captured
  | .atomic body => body.width captured
  | .repetition _ least most body =>
    let width := body.width captured
    Width.limited ⟨width.least * least, width.most * most.getD unbounded⟩
  | .backreference index => captured index
  | .conditional _ yes no =>
    let taken := yes.width captured
    let skipped := no.width captured
    ⟨min taken.least skipped.least, max taken.most skipped.most⟩

/-- The width of nodes one after the other. -/
def Node.totalWidth (captured : Nat → Width) : List Node → Width
  | [] => ⟨0, 0⟩
  | node :: rest =>
    let first := node.width captured
    let others := Node.totalWidth captured rest
    ⟨first.least + others.least, first.most + others.most⟩

/-- The width of a choice between nodes. -/
def Node.joinedWidth (captured : Nat → Width) : List Node → Width
  | [] => ⟨unbounded - 1, 0⟩
  | node :: rest =>
    let first := node.width captured
    let others := Node.joinedWidth captured rest
    ⟨min first.least others.least, max first.most others.most⟩

end

mutual

/-- Whether every look-behind has a body of one width. -/
def Node.lookBehindsFixed : Node → Bool
  | .lookBehind _ width body => width.least == width.most && body.lookBehindsFixed
  | .sequence items => Node.allLookBehindsFixed items
  | .branch alternatives => Node.allLookBehindsFixed alternatives
  | .group _ _ _ body => body.lookBehindsFixed
  | .atomic body => body.lookBehindsFixed
  | .repetition _ _ _ body => body.lookBehindsFixed
  | .lookAhead _ body => body.lookBehindsFixed
  | .conditional _ yes no => yes.lookBehindsFixed && no.lookBehindsFixed
  | _ => true

/-- Whether every look-behind in some nodes has a body of one width. -/
def Node.allLookBehindsFixed : List Node → Bool
  | [] => true
  | node :: rest => node.lookBehindsFixed && Node.allLookBehindsFixed rest

end

end RecordValidation.Pattern
