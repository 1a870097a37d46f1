import ComposeLint.Text.Search
import ComposeLint.Text.Units

/-!
# Texts shown inside messages

A message shows a text that it complains of between quotation marks. The marks are chosen so that
as little as possible has to be escaped, a long text is broken after its line ends, and what is
longer than a message can bear is cut.
-/

namespace ComposeLint.Text

/-- The mark that a text is put between: the apostrophe if it is free, or else the first free one
of the double quote and the backquote, or else the apostrophe. A text that has `${` is not put
between backquotes. -/
def markOf (cs : List Char) : Char :=
  if !cs.contains '\'' then '\''
  else if !cs.contains '"' then '"'
  else if !cs.contains '\x60' && !occursIn ['$', '\x7b'] cs then '\x60'
  else '\''

/-- A digit of a number in base 16. -/
def hexDigit (n : Nat) : Char := (Nat.digitChar n).toUpper

/-- A character between two marks. -/
def escaped (mark c : Char) : List Char :=
  if c == '\\' || (c == mark && c == '\'') then ['\\', c]
  else
    match c.toNat with
    | 8 => ['\\', 'b']
    | 9 => ['\\', 't']
    | 10 => ['\\', 'n']
    | 12 => ['\\', 'f']
    | 13 => ['\\', 'r']
    | n =>
      if n < 0x20 || (0x7F ≤ n && n < 0xA0) then
        ['\\', 'x', hexDigit (n / 16), hexDigit (n % 16)]
      else [c]

/-- A text between marks. -/
def marked (cs : List Char) : List Char :=
  let mark := markOf cs
  mark :: cs.flatMap (escaped mark) ++ [mark]

/-- The lines of a text, each with the line end that closes it. -/
def closedLines : List Char → List (List Char)
  | [] => []
  | c :: rest =>
    if c == '\n' then [c] :: closedLines rest
    else
      match closedLines rest with
      | [] => [[c]]
      | line :: lines => (c :: line) :: lines

/-- The length above which a text is broken into its lines. -/
def shownLine : Nat := 124

/-- The length above which what is shown is cut. -/
def shownLimit : Nat := 128

/-- The first `limit` units of a text, followed by points if there are more. -/
def cutAt (limit : Nat) (cs : List Char) : List Char :=
  if units cs ≤ limit then cs
  else ofUnitValues ((cs.flatMap unitValues).take limit) ++ ['.', '.', '.']

/-- **A text as a message shows it.** -/
def shown (s : String) : String :=
  let cs := s.toList
  let whole :=
    if shownLine < units cs then
      (" +\n  ".toList).intercalate ((closedLines cs).map marked)
    else marked cs
  String.ofList (cutAt shownLimit whole)

end ComposeLint.Text
