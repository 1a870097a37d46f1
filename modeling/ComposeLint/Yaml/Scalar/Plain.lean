import ComposeLint.Yaml.Cursor

/-!
# Plain scalars

A plain scalar has no quotes and ends where something of structure begins: a colon before a
gap, a comment, a document separator, a line that is not indented enough, and in a flow
collection every indicator. Blanks at the ends of its lines do not belong to it. A line break
inside of it is folded to a space, and of several line breaks one is dropped.
-/

namespace ComposeLint.Yaml

/-- What stands for a number of line breaks in folded text, last character first. -/
def folded (breaks : Nat) : List Char :=
  if breaks = 1 then [' '] else List.replicate (breaks - 1) '\n'

/-- Characters that no text may hold outside of quotes. -/
def isUnprintable (c : Char) : Bool :=
  let n := c.toNat
  n ≤ 0x08 || n == 0x0B || n == 0x0C || (0x0E ≤ n && n ≤ 0x1F) || (0x7F ≤ n && n ≤ 0x84) ||
    (0x86 ≤ n && n ≤ 0x9F) || n == 0xFFFE || n == 0xFFFF

namespace Plain

/-- The characters that no plain scalar begins with. -/
def opensOther (c : Char) : Bool :=
  isGap c || isIndicator c || "#&*!|>'\"%@\x60".toList.contains c

/-- Whether a gap follows, or in a flow collection an indicator. -/
def isFollowedByEnd (inFlow : Bool) (cursor : Cursor) : Bool :=
  cursor.peekNext.any fun c => isGap c || (inFlow && isIndicator c)

/-- Whether a plain scalar may begin at a place. -/
def mayBegin (inFlow : Bool) (cursor : Cursor) : Bool :=
  match cursor.peek with
  | none => true
  | some c =>
    if opensOther c then false
    else if c == '?' || c == '-' then !isFollowedByEnd inFlow cursor
    else true

/-- Whether a scalar ends before the character `c` at a place. -/
def ends (inFlow : Bool) (cursor : Cursor) (c : Char) : Bool :=
  if c == ':' then isFollowedByEnd inFlow cursor
  else if c == '#' then cursor.before.any isGap
  else cursor.isSeparator || (inFlow && isIndicator c)

/-- A scalar that is being read. Texts are held last character first. -/
structure Partial where
  /-- The text of the lines before. -/
  lines : List Char := []
  /-- The text of the present line, up to its last character that is not blank. -/
  line : List Char := []
  /-- The blanks after that. -/
  blanks : List Char := []
  /-- The place behind the last character that is not blank. -/
  stop : Cursor

/-- The text up to the last character that is not blank, or a complaint about one of its
characters. -/
def Partial.captured (part : Partial) (cursor : Cursor) : Except Fault (List Char) :=
  if part.line.any isUnprintable then .error ⟨.unprintable, some cursor.mark⟩
  else .ok (part.line ++ part.lines)

/-- Reads on, with `breaks` the line breaks that were passed since the last character. -/
def readOn (indent : Int) (inFlow : Bool) : Nat → Partial → Nat → Cursor →
    Except Fault (List Char × Cursor)
  | 0, part, _, cursor => return (← part.captured cursor, cursor)
  | budget + 1, part, breaks, cursor => do
    match cursor.peek with
    | none => return (← part.captured cursor, cursor)
    | some c =>
      if ends inFlow cursor c then return (← part.captured cursor, cursor)
      else if isBreak c then
        let (breaks, next) := cursor.skip false
        if indent ≤ next.lineIndent then readOn indent inFlow budget part breaks next
        else
          let stop := { part.stop with firstTab := next.firstTab }
          return (← part.captured stop, stop)
      else
        let part ←
          if breaks = 0 then pure part
          else
            let lines ← part.captured cursor
            pure { lines := folded breaks ++ lines, stop := cursor }
        let next := cursor.step
        if isSpace c then
          readOn indent inFlow budget { part with blanks := c :: part.blanks } 0 next
        else
          let line := c :: (part.blanks ++ part.line)
          readOn indent inFlow budget { part with line, blanks := [], stop := next } 0 next

/-- Reads a plain scalar at a place, if one begins there. -/
def read? (budget : Nat) (indent : Int) (inFlow : Bool) (cursor : Cursor) :
    Except Fault (Option (String × Cursor)) := do
  if !mayBegin inFlow cursor then return none
  let (text, next) ← readOn indent inFlow budget { stop := cursor } 0 cursor
  if text.isEmpty then return none
  return some (String.ofList text.reverse, next)

end Plain
end ComposeLint.Yaml
