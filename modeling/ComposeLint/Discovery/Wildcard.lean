/-!
# Wildcards

A wildcard is a pattern for one name. It is made of texts, in which `*`, `?` and `[…]` stand for
characters, and of groups such as `@(a|b)`, each a sigil and choices between bars. `Piece.ofText`
reads the groups; what the texts mean is decided where they are rendered.

A group whose end is missing is no group: from its sigil on, all is text.
-/

namespace ComposeLint.Discovery

/-- The kinds of groups. -/
inductive GroupKind where
  /-- One of the choices, or nothing. -/
  | atMostOne
  /-- Any number of the choices. -/
  | anyNumber
  /-- At least one of the choices. -/
  | atLeastOne
  /-- One of the choices. -/
  | exactlyOne
  /-- Anything but the choices. -/
  | noneOf
  deriving DecidableEq, Repr

namespace GroupKind

/-- The character that begins a group. -/
def sigil : GroupKind → Char
  | atMostOne => '?'
  | anyNumber => '*'
  | atLeastOne => '+'
  | exactlyOne => '@'
  | noneOf => '!'

/-- The kind that a character begins. -/
def ofSigil? (c : Char) : Option GroupKind :=
  [atMostOne, anyNumber, atLeastOne, exactlyOne, noneOf].find? fun kind => kind.sigil == c

/-- Whether a group takes the choices of a group of another kind for its own, when that group is all
of a choice. -/
def adopts : GroupKind → GroupKind → Bool
  | noneOf, exactlyOne | exactlyOne, exactlyOne => true
  | atMostOne, atMostOne | atMostOne, exactlyOne => true
  | anyNumber, inner => inner != noneOf
  | atLeastOne, atLeastOne | atLeastOne, exactlyOne => true
  | _, _ => false

/-- Whether a group takes the choices of a group of another kind and an empty one. -/
def adoptsWithBlank : GroupKind → GroupKind → Bool
  | noneOf, atMostOne | exactlyOne, atMostOne => true
  | atLeastOne, atMostOne | atLeastOne, anyNumber => true
  | _, _ => false

/-- Whether a group takes the choices of a group of another kind, with or without an empty one. -/
def takesIn (outer inner : GroupKind) : Bool := outer.adopts inner || outer.adoptsWithBlank inner

/-- The kind of group that replaces a group and the group of another kind that is all of its only
choice. -/
def merged? : GroupKind → GroupKind → Option GroupKind
  | noneOf, noneOf => some exactlyOne
  | atMostOne, anyNumber | atMostOne, atLeastOne => some anyNumber
  | exactlyOne, inner => some inner
  | atLeastOne, atMostOne | atLeastOne, anyNumber => some anyNumber
  | _, _ => none

end GroupKind

mutual

/-- A piece of a wildcard. -/
inductive Piece where
  | text (cs : List Char)
  /-- Text from the sigil of a group that does not end. -/
  | unclosed (cs : List Char)
  /-- A group. Its end is bare when nothing is between it and the bar, the group or the bracket
  before it. -/
  | group (kind : GroupKind) (hasBareEnd : Bool) (choices : List Choice)

/-- A choice of a group. -/
inductive Choice where
  /-- Pieces that are matched one after the other. A choice is leading if it may stand at the start
  of a name when its group does, and `closings` counts how often it has to be followed by what
  follows its group. -/
  | mk (isLeading : Bool) (closings : Nat) (pieces : List Piece)

end

namespace Choice

/-- Whether a choice may stand at the start of a name. -/
def isLeading : Choice → Bool
  | mk isLeading _ _ => isLeading

/-- How often a choice is closed. -/
def closings : Choice → Nat
  | mk _ closings _ => closings

/-- The pieces of a choice. -/
def pieces : Choice → List Piece
  | mk _ _ pieces => pieces

/-- A choice as it is read. -/
def ofPieces (pieces : List Piece) : Choice := mk true 0 pieces

end Choice

/-- Whether a piece is a group of what must not match. -/
def Piece.isNoneOf : Piece → Bool
  | group .noneOf _ _ => true
  | _ => false

/-! ## Reading -/

namespace Wildcard

/-- Where in a bracket a reader is. -/
inductive Bracket where
  | outside
  /-- At the first character, which never closes a bracket. -/
  | first
  /-- At the first character after a negation, which never closes a bracket either. -/
  | negated
  | inside
  deriving DecidableEq, Repr

/-- The place in a bracket after a character that no backslash quotes. -/
def Bracket.next (c : Char) : Bracket → Bracket
  | outside => if c == '[' then first else outside
  | first => if c == '^' || c == '!' then negated else inside
  | negated => inside
  | inside => if c == ']' then outside else inside

/-- A group that is being read. -/
structure OpenGroup where
  kind : GroupKind
  /-- How deep the group counts as nested. -/
  depth : Nat
  /-- The pieces before the group, last first. -/
  before : List Piece
  /-- The choices that are complete, last first. -/
  choices : List Choice

/-- What has been read. -/
structure Reader where
  /-- The groups that are open, innermost first. -/
  groups : List OpenGroup := []
  /-- The pieces of what is being read, last first. -/
  pieces : List Piece := []
  /-- The text that is being read, last character first. -/
  pending : List Char := []
  isQuoted : Bool := false
  bracket : Bracket := .outside
  /-- The pieces before the outermost open group, last first, and the text from its sigil on. -/
  unclosed : List Piece × List Char := ([], [])

namespace Reader

/-- Goes on with a character of a text. -/
def push (read : Reader) (c : Char) : Reader := { read with pending := c :: read.pending }

/-- Ends a text. -/
def endText (read : Reader) : Reader :=
  if read.pending.isEmpty then read
  else { read with pieces := .text read.pending.reverse :: read.pieces, pending := [] }

/-- How deep groups may be nested before a sigil counts as text. -/
def depthLimit : Nat := 2

/-- The depth of a group that begins here. A group that the one around it takes in is no deeper
than that one. -/
def depthOf? (read : Reader) (kind : GroupKind) : Option Nat :=
  match read.groups with
  | [] => some 1
  | around :: _ =>
    if around.kind.takesIn kind then some around.depth
    else if around.depth ≤ depthLimit then some (around.depth + 1)
    else none

/-- Begins a group; `rest` is the text from its sigil on. -/
def openGroup (read : Reader) (kind : GroupKind) (depth : Nat) (rest : List Char) : Reader :=
  let ended := read.endText
  { ended with
    groups := { kind, depth, before := ended.pieces, choices := [] } :: ended.groups
    pieces := []
    unclosed := if ended.groups.isEmpty then (ended.pieces, rest) else ended.unclosed }

/-- Ends a choice. -/
def endChoice (read : Reader) : Reader :=
  let ended := read.endText
  match ended.groups with
  | [] => read
  | group :: groups =>
    let choice := Choice.ofPieces ended.pieces.reverse
    { ended with
      groups := { group with choices := choice :: group.choices } :: groups, pieces := [] }

/-- Ends a group. -/
def closeGroup (read : Reader) : Reader :=
  let ended := read.endChoice
  match ended.groups with
  | [] => read
  | group :: groups =>
    { ended with
      groups
      pieces := .group group.kind read.pending.isEmpty group.choices.reverse :: group.before }

/-- All pieces. -/
def result (read : Reader) : List Piece :=
  if read.groups.isEmpty then read.endText.pieces.reverse
  else (.unclosed read.unclosed.2 :: read.unclosed.1).reverse

end Reader

/-- Reads a text. A parenthesis that has been read with its sigil is skipped. -/
def read : Bool → Reader → List Char → Reader
  | _, state, [] => state
  | true, state, _ :: rest => read false state rest
  | false, state, c :: rest =>
    if state.isQuoted || c == '\\' then
      let bracket := if state.bracket = .outside then .outside else .inside
      read false { state.push c with isQuoted := !state.isQuoted, bracket } rest
    else if state.bracket != .outside || c == '[' then
      read false { state.push c with bracket := state.bracket.next c } rest
    else
      let begun := do
        let kind ← GroupKind.ofSigil? c
        let depth ← if rest.head? == some '(' then state.depthOf? kind else none
        some (state.openGroup kind depth (c :: rest))
      match begun with
      | some begun => read true begun rest
      | none =>
        if !state.groups.isEmpty && c == '|' then read false state.endChoice rest
        else if !state.groups.isEmpty && c == ')' then read false state.closeGroup rest
        else read false (state.push c) rest

end Wildcard

/-- The pieces of a wildcard. -/
def Piece.ofText (cs : List Char) : List Piece := (Wildcard.read false {} cs).result

end ComposeLint.Discovery
