import ComposeLint.Text.Units
import ComposeLint.Tree
import ComposeLint.Yaml.Fault

/-!
# The place of a reader in a YAML text

A `Cursor` is the rest of the text and what the reader knows of the part behind it: the offset,
the line and where it begins, its indentation, and the first tab among the blanks that were
skipped in it. `Cursor.skip` passes over blanks, line breaks and comments, and counts the line
breaks; all indentation is measured there.
-/

namespace ComposeLint.Yaml

/-- A place in a text. -/
structure Cursor where
  rest : List Char
  /-- The character right before the place. -/
  before : Option Char := none
  offset : Nat := 0
  line : Nat := 0
  lineStart : Nat := 0
  /-- How many spaces the line begins with. -/
  lineIndent : Nat := 0
  /-- The offset of the first tab that was skipped in the line. -/
  firstTab : Option Nat := none

/-- Spaces and tabs. -/
def isSpace (c : Char) : Bool := c == ' ' || c == '\t'

/-- Characters that end a line. -/
def isBreak (c : Char) : Bool := c == '\n' || c == '\r'

/-- Spaces, tabs and line ends. -/
def isGap (c : Char) : Bool := isSpace c || isBreak c

/-- The characters that give flow collections their structure. -/
def isIndicator (c : Char) : Bool :=
  c == ',' || c == '[' || c == ']' || c == '\x7b' || c == '\x7d'

namespace Cursor

/-- The mark of a place. -/
def mark (cursor : Cursor) : Mark :=
  { offset := cursor.offset, line := cursor.line, lineStart := cursor.lineStart }

/-- The character at the place. -/
def peek (cursor : Cursor) : Option Char := cursor.rest.head?

/-- The character after the one at the place. -/
def peekNext (cursor : Cursor) : Option Char := cursor.rest.tail.head?

/-- Whether the text goes on with a character that satisfies `p`. -/
def sees (cursor : Cursor) (p : Char → Bool) : Bool := cursor.peek.any p

/-- The place behind a character, apart from the rest of the text. -/
def past (cursor : Cursor) (c : Char) : Cursor :=
  { cursor with before := some c, offset := cursor.offset + Text.unitsOf c }

/-- The place behind the next character. -/
def step (cursor : Cursor) : Cursor :=
  match cursor.rest with
  | [] => cursor
  | c :: rest => { cursor.past c with rest }

/-- The place at the start of a line that has just begun. -/
def newLine (cursor : Cursor) : Cursor :=
  { cursor with
    line := cursor.line + 1, lineStart := cursor.offset, lineIndent := 0, firstTab := none }

/-- The place at the given offset; of the rest of the text nothing is known there. -/
def movedTo (cursor : Cursor) (offset : Nat) : Cursor := { cursor with offset }

/-! ## Skipping -/

/-- What is being skipped. -/
inductive Skipping where
  | blanks | comment | indent
  deriving DecidableEq

/-- Skips from a place whose rest is given apart; gives the number of line breaks. -/
def skipFrom (comments : Bool) : Skipping → List Char → Cursor → Nat → Nat × Cursor
  | _, [], cursor, breaks => (breaks, { cursor with rest := [] })
  | _, '\r' :: '\n' :: rest, cursor, breaks =>
    skipFrom comments .indent rest ((cursor.past '\r').past '\n').newLine (breaks + 1)
  | mode, c :: rest, cursor, breaks =>
    if isBreak c then skipFrom comments .indent rest (cursor.past c).newLine (breaks + 1)
    else if mode = .comment then skipFrom comments .comment rest (cursor.past c) breaks
    else if mode = .indent && c == ' ' then
      let next := cursor.past c
      skipFrom comments .indent rest { next with lineIndent := next.lineIndent + 1 } breaks
    else if isSpace c then
      let firstTab :=
        if c == '\t' then cursor.firstTab.or (some cursor.offset) else cursor.firstTab
      skipFrom comments .blanks rest { cursor.past c with firstTab } breaks
    else if comments && c == '#' then skipFrom comments .comment rest (cursor.past c) breaks
    else (breaks, { cursor with rest := c :: rest })

/-- Skips blanks and line breaks, and comments where they are allowed. -/
def skip (comments : Bool) (cursor : Cursor) : Nat × Cursor :=
  skipFrom comments .blanks cursor.rest cursor 0

/-- Steps over characters that satisfy `p`, from a place whose rest is given apart. -/
def spanFrom (p : Char → Bool) : List Char → Cursor → List Char → List Char × Cursor
  | [], cursor, passed => (passed.reverse, { cursor with rest := [] })
  | c :: rest, cursor, passed =>
    if p c then spanFrom p rest (cursor.past c) (c :: passed)
    else (passed.reverse, { cursor with rest := c :: rest })

/-- The characters at a place that satisfy `p`, and the place behind them. -/
def span (p : Char → Bool) (cursor : Cursor) : List Char × Cursor :=
  spanFrom p cursor.rest cursor []

/-- The place behind one line break. -/
def lineBreak? (cursor : Cursor) : Option Cursor :=
  match cursor.rest with
  | '\r' :: '\n' :: rest => some { ((cursor.past '\r').past '\n').newLine with rest }
  | c :: rest => if isBreak c then some { (cursor.past c).newLine with rest } else none
  | [] => none

/-- Whether a line of three hyphens or points begins at the place; what follows them on the line
must be apart from them. -/
def isSeparator (cursor : Cursor) : Bool :=
  cursor.offset == cursor.lineStart &&
    match cursor.rest with
    | a :: b :: c :: rest =>
      (a == '-' || a == '.') && a == b && a == c && rest.head?.all isGap
    | _ => false

end Cursor

end ComposeLint.Yaml
