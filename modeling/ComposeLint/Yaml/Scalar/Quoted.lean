import ComposeLint.Yaml.Scalar.Plain

/-!
# Quoted scalars

Between single quotes every character stands for itself, and a quote is written twice. Between
double quotes a backslash begins an escape. In both, line breaks are folded as in a plain
scalar, and the blanks before a line break do not belong to the text.

The text is collected in sixteen-bit units, because two escapes may together spell one
character.
-/

namespace ComposeLint.Yaml.Quoted

/-- A scalar that is being read. Texts are held last character or unit first. -/
structure Partial where
  /-- The units of what is complete. -/
  units : List Nat := []
  /-- The text since then, up to its last character that is not blank. -/
  line : List Char := []
  /-- The blanks after that. -/
  blanks : List Char := []

/-- Adds a character to the text. -/
def Partial.push (part : Partial) (c : Char) : Partial :=
  if isSpace c then { part with blanks := c :: part.blanks }
  else { part with line := c :: (part.blanks ++ part.line), blanks := [] }

/-- The units of characters, both last first. -/
def unitsOfReversed (cs : List Char) : List Nat := cs.flatMap fun c => (Text.unitValues c).reverse

/-- The units of the whole text so far, with or without the blanks at its end, or a complaint about
a control character. -/
def Partial.captured (part : Partial) (withBlanks : Bool) (cursor : Cursor) :
    Except Fault (List Nat) :=
  if part.line.any fun c => c.toNat < 0x20 && c != '\t' then
    .error ⟨.controlInQuotes, some cursor.mark⟩
  else
    let line := if withBlanks then part.blanks ++ part.line else part.line
    .ok (unitsOfReversed line ++ part.units)

/-- The text of units, last unit first. -/
def textOf (units : List Nat) : String := String.ofList (Text.ofUnitValues units.reverse)

/-! ## Escapes -/

/-- The character that an escape of one letter stands for. -/
def escaped? (c : Char) : Option Nat :=
  match c with
  | '0' => some 0x00
  | 'a' => some 0x07
  | 'b' => some 0x08
  | 't' => some 0x09
  | '\t' => some 0x09
  | 'n' => some 0x0A
  | 'v' => some 0x0B
  | 'f' => some 0x0C
  | 'r' => some 0x0D
  | 'e' => some 0x1B
  | ' ' => some 0x20
  | '"' => some 0x22
  | '/' => some 0x2F
  | '\\' => some 0x5C
  | 'N' => some 0x85
  | '_' => some 0xA0
  | 'L' => some 0x2028
  | 'P' => some 0x2029
  | _ => none

/-- How many digits an escape by number has. -/
def digitCount? (c : Char) : Option Nat :=
  match c with
  | 'x' => some 2
  | 'u' => some 4
  | 'U' => some 8
  | _ => none

/-- The value of a hexadecimal digit. -/
def hexValue? (c : Char) : Option Nat :=
  if c.isDigit then some (c.toNat - '0'.toNat)
  else if 'a' ≤ c ∧ c ≤ 'f' then some (c.toNat - 'a'.toNat + 10)
  else if 'A' ≤ c ∧ c ≤ 'F' then some (c.toNat - 'A'.toNat + 10)
  else none

/-- Reads hexadecimal digits. -/
def readDigits : Nat → Nat → Cursor → Except Fault (Nat × Cursor)
  | 0, value, cursor => .ok (value, cursor)
  | count + 1, value, cursor =>
    match cursor.peek.bind hexValue? with
    | some digit => readDigits count (16 * value + digit) cursor.step
    | none => .error ⟨.digitExpected, some cursor.mark⟩

/-- The units, last first, that a number of an escape stands for. Beyond sixteen bits it is split in
two halves; a number of thirty-two bits with the highest one set counts as below sixteen. -/
def unitsOfNumber (n : Nat) : List Nat :=
  if n < 0x10000 || 0x80000000 ≤ n then [n % 0x10000]
  else
    let m := n - 0x10000
    [0xDC00 + m % 0x400, (m / 0x400 + 0xD800) % 0x10000]

/-! ## Reading -/

/-- Reads on behind an opening single quote. -/
def readSingle : Nat → Partial → Cursor → Except Fault (String × Cursor)
  | 0, _, cursor => .error ⟨.streamEnds .singleQuotes, some cursor.mark⟩
  | budget + 1, part, cursor =>
    match cursor.peek with
    | none => .error ⟨.streamEnds .singleQuotes, some cursor.mark⟩
    | some c =>
      if c == '\'' then do
        let units ← part.captured true cursor
        let next := cursor.step
        if next.peek == some '\'' then readSingle budget { units, line := ['\''] } next.step
        else return (textOf units, next)
      else if isBreak c then do
        let units ← part.captured false cursor
        let (breaks, next) := cursor.skip false
        readSingle budget { units := unitsOfReversed (folded breaks) ++ units } next
      else if cursor.isSeparator then .error ⟨.documentEnds .singleQuotes, some cursor.mark⟩
      else readSingle budget (part.push c) cursor.step

/-- Reads what follows a backslash: the units it stands for, last first, and the place behind. -/
def readEscape (cursor : Cursor) : Except Fault (List Nat × Cursor) :=
  match cursor.peek with
  | none => .error ⟨.unknownEscape, some cursor.mark⟩
  | some c =>
    if isBreak c then .ok ([], (cursor.skip false).2)
    else
      match escaped? c, digitCount? c with
      | some n, _ => .ok ([n], cursor.step)
      | none, some count => do
        let (n, next) ← readDigits count 0 cursor.step
        return (unitsOfNumber n, next)
      | none, none => .error ⟨.unknownEscape, some cursor.mark⟩

/-- Reads on behind an opening double quote. -/
def readDouble : Nat → Partial → Cursor → Except Fault (String × Cursor)
  | 0, _, cursor => .error ⟨.streamEnds .doubleQuotes, some cursor.mark⟩
  | budget + 1, part, cursor =>
    match cursor.peek with
    | none => .error ⟨.streamEnds .doubleQuotes, some cursor.mark⟩
    | some c =>
      if c == '"' then do
        return (textOf (← part.captured true cursor), cursor.step)
      else if c == '\\' then do
        let units ← part.captured true cursor
        let (more, next) ← readEscape cursor.step
        readDouble budget { units := more ++ units } next
      else if isBreak c then do
        let units ← part.captured false cursor
        let (breaks, next) := cursor.skip false
        readDouble budget { units := unitsOfReversed (folded breaks) ++ units } next
      else if cursor.isSeparator then .error ⟨.documentEnds .doubleQuotes, some cursor.mark⟩
      else readDouble budget (part.push c) cursor.step

/-- Reads a quoted scalar at a place, if one begins there. -/
def read? (budget : Nat) (cursor : Cursor) : Except Fault (Option (String × Cursor)) :=
  match cursor.peek with
  | some '\'' => (readSingle budget {} cursor.step).map some
  | some '"' => (readDouble budget {} cursor.step).map some
  | _ => .ok none

end ComposeLint.Yaml.Quoted
