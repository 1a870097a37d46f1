import ComposeLint.Discovery.Wildcard

/-!
# Merging groups

A group that is all of a choice can often be taken in by the group around it: `+(a|@(b|c))` is
`+(a|b|c)`. `Piece.merged` takes in what can be taken in, innermost groups first. A choice of a
group of what must not match that is taken in is closed once more.
-/

namespace ComposeLint.Discovery

/-- The group that is all of a choice. -/
def Choice.soleGroup? : Choice → Option (GroupKind × List Choice)
  | mk _ _ [.group kind _ choices] => some (kind, choices)
  | _ => none

/-- A choice of nothing. It does not stand at the start of a name, and need not. -/
def Choice.blank : Choice := mk false 0 []

/-- What replaces a choice whose group is adopted; none if it is not. -/
def Choice.adopted? (outer : GroupKind) (choice : Choice) : Option (List Choice) := do
  let (inner, choices) ← choice.soleGroup?
  if outer.adopts inner then some choices
  else if outer.adoptsWithBlank inner then some (choices ++ [blank])
  else none

/-- A choice that is closed once more. -/
def Choice.closed : Choice → Choice
  | mk isLeading closings pieces => mk isLeading (closings + 1) pieces

/-- What replaces a group whose only choice is a group of another kind. -/
def Choice.merged? (outer : GroupKind) : List Choice → Option (GroupKind × List Choice)
  | [choice] => do
    let (inner, choices) ← choice.soleGroup?
    let kind ← outer.merged? inner
    some (kind, if outer = .noneOf then choices.map closed else choices)
  | _ => none

/-- How often a group looks for what it can take in. -/
def mergeRounds : Nat := 10

/-- A group after some rounds of taking in what its choices are. -/
def Piece.absorbing : Nat → GroupKind → Bool → List Choice → Piece
  | 0, kind, hasBareEnd, choices => .group kind hasBareEnd choices
  | rounds + 1, kind, hasBareEnd, choices =>
    if choices.any fun choice => (choice.adopted? kind).isSome then
      absorbing rounds kind hasBareEnd
        (choices.flatMap fun choice => (choice.adopted? kind).getD [choice])
    else
      match Choice.merged? kind choices with
      | some (kind, choices) => absorbing rounds kind false choices
      | none => .group kind hasBareEnd choices

mutual

/-- **A piece in which every group has taken in what it can.** -/
def Piece.merged : Piece → Piece
  | .text cs => .text cs
  | .unclosed cs => .unclosed cs
  | .group kind hasBareEnd choices =>
    Piece.absorbing mergeRounds kind hasBareEnd (mergedChoices choices)

/-- Pieces in which every group has taken in what it can. -/
def mergedPieces : List Piece → List Piece
  | [] => []
  | piece :: rest => piece.merged :: mergedPieces rest

/-- Choices in which every group has taken in what it can. -/
def mergedChoices : List Choice → List Choice
  | [] => []
  | .mk isLeading closings pieces :: rest =>
    .mk isLeading closings (mergedPieces pieces) :: mergedChoices rest

end

end ComposeLint.Discovery
