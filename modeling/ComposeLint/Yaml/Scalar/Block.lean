import ComposeLint.Yaml.Scalar.Plain

/-!
# Block scalars

A block scalar is the lines below its header that are indented enough. The header says whether
line breaks are kept or folded, what becomes of the line breaks at the end, and, if it cannot be
read off the first line, how far the lines are indented. A scalar that is a whole document has
to be indented too. Folding spares lines that begin with a blank.
-/

namespace ComposeLint.Yaml.Block

/-- What becomes of the line breaks at the end. -/
inductive Chomping where
  | clip | strip | keep
  deriving DecidableEq, Repr

/-- What a header says. -/
structure Header where
  isFolded : Bool
  chomping : Chomping := .clip
  /-- The indentation that is given explicitly, from 1. -/
  indent : Option Nat := none
  deriving Repr

/-- Reads the indicators of a header, from a place whose rest is given apart. -/
def readIndicators : List Char → Header → Cursor → Except Fault (Header × Cursor)
  | [], header, cursor => .ok (header, { cursor with rest := [] })
  | c :: rest, header, cursor =>
    let fail (complaint : Complaint) : Except Fault (Header × Cursor) :=
      .error ⟨complaint, some cursor.mark⟩
    if c == '+' || c == '-' then
      if header.chomping = .clip then
        let chomping := if c == '+' then Chomping.keep else .strip
        readIndicators rest { header with chomping } (cursor.past c)
      else fail .repeatedChomping
    else if c.isDigit then
      if c == '0' then fail .zeroIndent
      else if header.indent.isNone then
        readIndicators rest { header with indent := some (c.toNat - '0'.toNat) } (cursor.past c)
      else fail .repeatedIndent
    else .ok (header, { cursor with rest := c :: rest })

/-- The place behind the blanks and the comment after a header. -/
def afterHeader (cursor : Cursor) : Cursor :=
  if cursor.sees isSpace then
    let next := (cursor.span isSpace).2
    if next.peek == some '#' then (next.span fun c => !isBreak c).2 else next
  else cursor

/-- A scalar that is being read. -/
structure Partial where
  /-- The text so far, last character first. -/
  text : List Char := []
  /-- How far the lines are indented. -/
  indent : Int
  /-- Whether the indentation is settled. -/
  isSettled : Bool
  hasContent : Bool := false
  /-- The empty lines since the last line with content. -/
  emptyLines : Nat := 0
  /-- Whether the last line began with a blank. -/
  wasSpared : Bool := false

/-- The line breaks of the empty lines, and of the line with content before them. -/
def Partial.allBreaks (part : Partial) : List Char :=
  List.replicate (if part.hasContent then part.emptyLines + 1 else part.emptyLines) '\n'

/-- The text at the end of the scalar. -/
def Partial.finished (part : Partial) (chomping : Chomping) : List Char :=
  match chomping with
  | .keep => part.allBreaks ++ part.text
  | .clip => if part.hasContent then '\n' :: part.text else part.text
  | .strip => part.text

/-- What stands between the last line with content and one that begins with a blank or not. -/
def Partial.joint (part : Partial) (isFolded isSpared : Bool) : List Char :=
  if !isFolded || isSpared then part.allBreaks
  else if part.wasSpared then List.replicate (part.emptyLines + 1) '\n'
  else if part.emptyLines = 0 then if part.hasContent then [' '] else []
  else List.replicate part.emptyLines '\n'

/-- The place behind the spaces that are indentation: all of them, or those up to a limit. -/
def passIndent (limit : Option Int) : List Char → Cursor → Cursor
  | [], cursor => { cursor with rest := [] }
  | c :: rest, cursor =>
    if c == ' ' && limit.all fun n => (cursor.lineIndent : Int) < n then
      let next := cursor.past c
      passIndent limit rest { next with lineIndent := next.lineIndent + 1 }
    else { cursor with rest := c :: rest }

/-- Reads the lines of a scalar. -/
def readLines (header : Header) : Nat → Partial → Cursor → Except Fault (List Char × Cursor)
  | 0, part, cursor => .ok (part.text, cursor)
  | budget + 1, part, cursor =>
    if cursor.rest.isEmpty then .ok (part.text, cursor)
    else
      match cursor.lineBreak? with
      | none => .error ⟨.lineBreakExpected, some cursor.mark⟩
      | some start =>
        let limit := if part.isSettled then some part.indent else none
        let next := passIndent limit start.rest start
        let part :=
          if !part.isSettled && part.indent < next.lineIndent then
            { part with indent := next.lineIndent }
          else part
        if next.sees isBreak then
          readLines header budget { part with emptyLines := part.emptyLines + 1 } next
        else if !part.isSettled && part.indent = 0 then
          .error ⟨.missingIndent, some next.mark⟩
        else if next.lineIndent < part.indent then .ok (part.finished header.chomping, next)
        else
          let isSpared := next.sees isSpace
          let (line, stop) := next.span fun c => !isBreak c
          if line.any isUnprintable then .error ⟨.unprintable, some stop.mark⟩
          else
            let text := line.reverse ++ (part.joint header.isFolded isSpared ++ part.text)
            readLines header budget
              { text, indent := part.indent, isSettled := true, hasContent := true
                wasSpared := if header.isFolded then isSpared else part.wasSpared } stop

/-- Reads a block scalar at a place, if one begins there. Its lines are indented by at least
`indent`. -/
def read? (budget : Nat) (indent : Int) (cursor : Cursor) :
    Except Fault (Option (String × Cursor)) := do
  match cursor.peek with
  | some c =>
    if c == '|' || c == '>' then
      let opened := cursor.step
      let (header, next) ← readIndicators opened.rest { isFolded := c == '>' } opened
      let part : Partial :=
        match header.indent with
        | some n => { indent := indent + n - 1, isSettled := true }
        | none => { indent, isSettled := false }
      let (text, stop) ← readLines header budget part (afterHeader next)
      return some (String.ofList text.reverse, stop)
    else return none
  | none => return none

end ComposeLint.Yaml.Block
