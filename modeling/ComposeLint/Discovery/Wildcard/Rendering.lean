import ComposeLint.Discovery.Expression
import ComposeLint.Discovery.Wildcard.Closing
import ComposeLint.Discovery.Wildcard.Merging
import ComposeLint.Text.Blank

/-!
# Expressions of wildcards

`Wildcard.render` writes down the expression of a wildcard. Where a wildcard begins with something
that matches a point, the expression is guarded, so that hidden names are matched only by what
spells out the point; and where hidden names are asked for, so that `.` and `..` are not matched.

A group that repeats its choices is guarded only the first time.
-/

namespace ComposeLint.Discovery

/-- What a wildcard, or a part of it, is rendered as. -/
structure Rendered where
  tokens : List Token := []
  /-- Whether it has anything but plain text. -/
  isMagic : Bool := false
  /-- Whether it has a class that stands for whole characters. -/
  isWide : Bool := false

namespace Rendered

/-- One rendering after another. -/
def append (a b : Rendered) : Rendered :=
  { tokens := a.tokens ++ b.tokens, isMagic := a.isMagic || b.isMagic
    isWide := a.isWide || b.isWide }

/-- A rendering with tokens before it. -/
def after (tokens : List Token) (t : Rendered) : Rendered :=
  { t with tokens := tokens ++ t.tokens }

/-- A rendering with tokens behind it. -/
def before (t : Rendered) (tokens : List Token) : Rendered :=
  { t with tokens := t.tokens ++ tokens }

end Rendered

namespace Wildcard

/-! ## Texts -/

/-- Whether a unit is one of some characters. -/
def isOneOf (chars : String) (unit : Nat) : Bool := chars.toList.any fun c => c.toNat == unit

/-- Units that are escaped where a backslash quotes them. -/
def isEscapedQuoted (unit : Nat) : Bool := isOneOf "().*\x7b\x7d+?[]^$\\!" unit

/-- Units that are escaped where nothing quotes them. -/
def isEscapedPlain (unit : Nat) : Bool :=
  isOneOf "-[]\x7b\x7d()*+?.,\\^$|#" unit || Text.isBlank (Char.ofNat unit)

/-- The token of a quoted unit. A bar keeps its meaning. -/
def quotedToken (unit : Nat) : Token :=
  if unit == '|'.toNat then .bar else .unit unit (isEscapedQuoted unit)

/-- Any number of characters of a name. -/
def anyNumber : List Token := [.anyInName, .repeated .anyNumber true]

/-- At least one character of a name. -/
def atLeastOne : List Token := [.anyInName, .repeated .atLeastOnce true]

/-- The tokens of a class. -/
def classTokens : CharacterClass → List Token
  | .lists [one] => [.oneOf one]
  | .lists lists =>
    .openNumbered :: ((lists.map fun list => [Token.oneOf list]).intersperse [.bar]).flatten ++
      [.closeGroup]
  | .literal unit => [.unit unit (isEscapedPlain unit)]
  | .impossible => [.endOfName, .anyInLine]
  | .unclosed => [.unit '['.toNat true]

/-- Renders the units of a text; `skip` units are passed over first. Asterisks that follow each
other are one. -/
def renderUnits (star : List Token) : Nat → Bool → Bool → List Nat → Rendered
  | _, _, _, [] => {}
  | skip + 1, isQuoted, wasStar, _ :: rest => renderUnits star skip isQuoted wasStar rest
  | 0, true, _, unit :: rest =>
    (renderUnits star 0 false false rest).after [quotedToken unit]
  | 0, false, wasStar, unit :: rest =>
    if unit == '\\'.toNat then
      if rest.isEmpty then { tokens := [.unit unit true] }
      else renderUnits star 0 true wasStar rest
    else if unit == '['.toNat then
      let (found, left) := CharacterClass.read rest
      let here : Rendered :=
        { tokens := classTokens found
          isMagic :=
            match found with
            | .lists _ | .impossible => true
            | .literal _ | .unclosed => false
          isWide := found.isWide }
      let skip :=
        match found with
        | .unclosed => 0
        | _ => rest.length - left.length
      here.append (renderUnits star skip false false rest)
    else if unit == '*'.toNat then
      let here : Rendered := { tokens := if wasStar then [] else star, isMagic := true }
      here.append (renderUnits star 0 false true rest)
    else if unit == '?'.toNat then
      let here : Rendered := { tokens := [.anyInName], isMagic := true }
      here.append (renderUnits star 0 false false rest)
    else
      (renderUnits star 0 false false rest).after [.unit unit (isEscapedPlain unit)]

/-- Renders a text. Nothing but asterisks stands for at least one character where the text is in
what has to match a whole name. -/
def renderText (isWhole : Bool) (cs : List Char) : Rendered :=
  let star := if isWhole && cs.all (· == '*') then atLeastOne else anyNumber
  renderUnits star 0 false false (cs.flatMap Text.unitValues)

/-! ## Guards -/

/-- Refuses a point. -/
def refusingPoint : List Token := [.openWithout, .char '.' true, .closeGroup]

/-- Refuses the names `.` and `..`. -/
def refusingSteps : List Token :=
  [.openWithout, .openGroup, .startOfName, .bar, .char '/' false, .closeGroup, .char '.' true,
    .char '.' true, .repeated .atMostOnce false, .openGroup, .endOfName, .bar, .char '/' false,
    .closeGroup, .closeGroup]

/-- The end of what must not match. -/
def endOfPart : List Token :=
  [.openGroup, .endOfName, .bar, .char '/' true, .closeGroup]

/-- Whether tokens begin with something that is not spelled out. -/
def beginsBracket (tokens : List Token) : Bool := tokens.head?.any Token.beginsBracket

/-- Whether tokens begin with one or two points and something that is not spelled out. -/
def beginsPointed : List Token → Bool
  | .unit 0x2E true :: .unit 0x2E true :: rest => beginsBracket rest
  | .unit 0x2E true :: rest => beginsBracket rest
  | _ => false

/-- What guards tokens at the start of a name. -/
def guardOf (withHidden : Bool) (tokens : List Token) : List Token :=
  if (withHidden && beginsBracket tokens) || beginsPointed tokens then refusingSteps
  else if !withHidden && beginsBracket tokens then refusingPoint
  else []

/-- A rendering guarded at the start of a name. -/
def guarded (withHidden isStart : Bool) (t : Rendered) : Rendered :=
  if isStart then t.after (guardOf withHidden t.tokens) else t

/-- Whether pieces begin with a text. -/
def beginsWithText : List Piece → Bool
  | .text _ :: _ => true
  | _ => false

/-! ## Groups -/

/-- A group of choices that are all empty, as it is written. -/
def writtenGroup (kind : GroupKind) (choices : List Choice) : List Char :=
  kind.sigil :: '(' :: List.replicate (choices.length - 1) '|' ++ [')']

/-- The tokens of a group of choices that are all empty. Its sigil keeps the meaning that it has in
an expression. -/
def emptyGroupTokens (kind : GroupKind) (choices : List Choice) : List Token :=
  let sigil : Token :=
    match kind with
    | .atMostOne => .repeated .atMostOnce false
    | .anyNumber => .repeated .anyNumber false
    | .atLeastOne => .repeated .atLeastOnce false
    | .exactlyOne | .noneOf => .char kind.sigil false
  sigil :: .openNumbered :: List.replicate (choices.length - 1) .bar ++ [.closeGroup]

/-- The tokens around the choices of a group. -/
def groupTokens (kind : GroupKind) (hasBareEnd withHidden isStart : Bool) (body : List Token)
    (again : Option (List Token)) : List Token :=
  let point := if isStart && !withHidden then refusingPoint else []
  let inner :=
    match again with
    | some more =>
      .openGroup :: body ++ .closeGroup :: .openGroup :: more ++
        [.closeGroup, .repeated .anyNumber true]
    | none => body
  match kind with
  | .noneOf =>
    if hasBareEnd then point ++ atLeastOne
    else
      .openGroup :: .openWithout :: .openGroup :: inner ++
        .closeGroup :: .closeGroup :: point ++ anyNumber ++ [.closeGroup]
  | .exactlyOne => .openGroup :: inner ++ [.closeGroup]
  | .atMostOne => .openGroup :: inner ++ [.closeGroup, .repeated .atMostOnce false]
  | .atLeastOne =>
    .openGroup :: inner ++ .closeGroup ::
      if again.isSome then [] else [.repeated .atLeastOnce false]
  | .anyNumber =>
    .openGroup :: inner ++
      [.closeGroup, .repeated (if again.isSome then .atMostOnce else .anyNumber) false]

/-- Renderings of choices with bars between them. Where they have to match a whole name, empty ones
are left out. -/
def joinedChoices (isWhole : Bool) (choices : List Rendered) : Rendered :=
  let kept := if isWhole then choices.filter fun t => !t.tokens.isEmpty else choices
  { tokens := ((kept.map (·.tokens)).intersperse [.bar]).flatten
    isMagic := true
    isWide := choices.any (·.isWide) }

mutual

/-- Renders a piece. It may stand at the start of a name if `isStart`, at the end if `isEnd`, and
is in something that has to match a whole name if `isWhole`. With `isAgain`, it has been rendered
before, without hidden names. -/
def renderPiece (withHidden isAgain isWhole isStart isEnd : Bool) : Piece → Rendered
  | .text cs => renderText isWhole cs
  | .unclosed cs => guarded withHidden isStart (renderText false cs)
  | .group kind hasBareEnd choices =>
    let isAll := isStart && isEnd
    let body :=
      joinedChoices isAll (renderChoices kind withHidden isAgain isStart isEnd choices)
    if isAll && body.tokens.isEmpty && kind != .noneOf then
      if isAgain then guarded withHidden isStart (renderText false (writtenGroup kind choices))
      else { tokens := emptyGroupTokens kind choices }
    else
      let repeats := kind == .anyNumber || kind == .atLeastOne
      let again :=
        if repeats && !withHidden then
          let more :=
            (joinedChoices isAll (renderChoices kind true true isStart isEnd choices)).tokens
          if more.isEmpty || more == body.tokens then none else some more
        else none
      { body with
        tokens := groupTokens kind hasBareEnd withHidden isStart body.tokens again }

/-- Renders pieces one after the other; the first may stand at the start of a name if
`mayStart`. -/
def renderPieces (withHidden isAgain isWhole mayStart isEnd : Bool) :
    List Piece → Rendered
  | [] => {}
  | piece :: rest =>
    (renderPiece withHidden isAgain isWhole mayStart (isEnd && rest.isEmpty) piece).append
      (renderPieces withHidden isAgain isWhole (mayStart && piece.isNoneOf) isEnd rest)

/-- Renders the choices of a group. -/
def renderChoices (kind : GroupKind) (withHidden isAgain isStart isEnd : Bool) :
    List Choice → List Rendered
  | [] => []
  | .mk isLeading _ pieces :: rest =>
    let starts := isStart && isLeading
    let ends := isEnd || kind == .noneOf
    let inner := renderPieces withHidden isAgain (starts && ends) starts ends pieces
    let whole := guarded withHidden (starts && beginsWithText pieces) inner
    (if kind == .noneOf then whole.before endOfPart else whole) ::
      renderChoices kind withHidden isAgain isStart isEnd rest

end

/-- **Renders a wildcard.** -/
def render (withHidden : Bool) (cs : List Char) : Rendered :=
  let pieces := closedPieces [] (mergedPieces (Piece.ofText cs))
  guarded withHidden (beginsWithText pieces)
    (renderPieces withHidden false true true true pieces)

end Wildcard
end ComposeLint.Discovery
