import ComposeLint.Discovery.Wildcard

/-!
# Closing negations

Whether a name is excluded by `!(a)b` depends on what follows the group: the name `ab` is, the name
`a` is not. So every choice of a group of what must not match is followed by a copy of all that
follows the group, up to the end of the wildcard. `closedPieces` makes these copies, from the last
piece to the first, so that what is copied is closed itself.
-/

namespace ComposeLint.Discovery

mutual

/-- A copy of a piece. Only the first choice of a copied group stands at the start of a name, and
its end is never bare. -/
def Piece.copy : Piece → Piece
  | .text cs => .text cs
  | .unclosed cs => .unclosed cs
  | .group kind _ choices => .group kind false (copiedChoices true choices)

/-- Copies of pieces. -/
def copiedPieces : List Piece → List Piece
  | [] => []
  | piece :: rest => piece.copy :: copiedPieces rest

/-- Copies of choices, the first of which is leading if `isFirst`. -/
def copiedChoices (isFirst : Bool) : List Choice → List Choice
  | [] => []
  | .mk _ _ pieces :: rest => .mk isFirst 0 (copiedPieces pieces) :: copiedChoices false rest

end

mutual

/-- A piece followed by `after`, with the choices of its negations closed. -/
def Piece.closedBy (after : List Piece) : Piece → Piece
  | .text cs => .text cs
  | .unclosed cs => .unclosed cs
  | .group kind hasBareEnd choices =>
    .group kind hasBareEnd (closedChoices (if kind = .noneOf then 1 else 0) after choices)

/-- Pieces followed by `after`, with the choices of their negations closed. -/
def closedPieces (after : List Piece) : List Piece → List Piece
  | [] => []
  | piece :: rest =>
    let closedRest := closedPieces after rest
    piece.closedBy (closedRest ++ after) :: closedRest

/-- Choices of a group followed by `after`, each closed `times` times more than it asks for. -/
def closedChoices (times : Nat) (after : List Piece) : List Choice → List Choice
  | [] => []
  | .mk isLeading closings pieces :: rest =>
    let tails := List.replicate (times + closings) (copiedPieces after)
    .mk isLeading 0 (closedPieces after pieces ++ tails.flatten) ::
      closedChoices times after rest

end

end ComposeLint.Discovery
