import ComposeLint.Text.Units
import ComposeLint.Yaml.Fault

/-!
# Excerpts

A fault is shown with the lines around its mark: up to three before it, the line itself, a
pointer to the place, and up to two after it, each with its number. Lines that are too wide are
cut on both sides so that the column of the mark stays in view. All widths are counted in
sixteen-bit units.

The line of the mark is found by its offset, and the numbers are counted from the line that the
mark names.
-/

namespace ComposeLint.Yaml

namespace Excerpt

/-- A line of a text: where it begins and where it ends. The last line, behind the last line end,
has no end of its own. -/
structure Line where
  start : Nat
  stop : Option Nat
  deriving Repr

/-- The lines of a text of units, from a line that began at `start`; `offset` is how far the text
has been read. A null byte ends a line too. -/
def linesFrom : Nat → Nat → List Nat → List Line
  | start, _, [] => [{ start, stop := none }]
  | start, offset, 0x0D :: 0x0A :: rest =>
    { start, stop := some offset } :: linesFrom (offset + 2) (offset + 2) rest
  | start, offset, u :: rest =>
    if u = 0x0A ∨ u = 0x0D ∨ u = 0 then
      { start, stop := some offset } :: linesFrom (offset + 1) (offset + 1) rest
    else linesFrom start (offset + 1) rest

/-- The lines of a text of units. -/
def lines (units : List Nat) : List Line := linesFrom 0 0 units

/-- How wide an excerpt may be. -/
def maxWidth : Nat := 79

/-- How many lines are shown before the line of the mark. -/
def linesBefore : Nat := 3

/-- How many lines are shown after it. -/
def linesAfter : Nat := 2

/-- The units from one offset to another; nothing when the end comes first. -/
def slice (units : Array Nat) (start stop : Int) : List Nat :=
  (units.extract start.toNat stop.toNat).toList

/-- A part of a line, and the column in it where the position is. -/
structure Window where
  text : String
  column : Int

/-- The part of a line around a position that fits into a width. -/
def window (units : Array Nat) (line : Line) (position : Int) (width : Int) : Window :=
  let half := width / 2 - 1
  let isCutBefore := half < position - line.start
  let head := if isCutBefore then " ... " else ""
  let start : Int := if isCutBefore then position - half + head.length else line.start
  let isCutAfter := line.stop.any fun stop => half < (stop : Int) - position
  let tail := if isCutAfter then " ..." else ""
  let stop : Int :=
    if isCutAfter then position + half - tail.length else (line.stop.getD units.size : Nat)
  let shown := (Text.ofUnitValues (slice units start stop)).map fun c =>
    if c == '\t' then '→' else c
  { text := head ++ String.ofList shown ++ tail, column := position - start + head.length }

/-- A number with blanks in front of it. -/
def paddedLeft (width : Nat) (n : Int) : String :=
  let digits := toString n
  String.ofList (List.replicate (width - digits.length) ' ') ++ digits

/-- The lines around a mark, for a text that is not empty. -/
def text (units : List Nat) (mark : Mark) : String :=
  let all := (lines units).toArray
  let array := units.toArray
  let ends := all.size - 1
  let found := (all.toList.findIdx? fun line => line.stop.any (mark.offset ≤ ·)).getD ends
  let numberWidth := (toString (min (mark.line + linesAfter) ends)).length
  let width : Int := (maxWidth : Int) - (1 + numberWidth + 3 : Nat)
  let origin := all.getD found { start := 0, stop := none }
  let shown (i : Nat) : Window :=
    let line := all.getD i { start := 0, stop := none }
    window array line ((mark.offset : Int) - (origin.start : Int) + line.start) width
  let row (i : Nat) : String :=
    " " ++ paddedLeft numberWidth ((mark.line : Int) + 1 + i - found) ++ " | " ++ (shown i).text
  let first := found - linesBefore
  let before := (List.range (found - first)).map fun i => row (first + i)
  let pointer :=
    String.ofList (List.replicate ((1 + numberWidth + 3 : Nat) + (shown found).column).toNat '-') ++
      "^"
  let after := (List.range linesAfter).filterMap fun i =>
    if found + i + 1 < ends then some (row (found + i + 1)) else none
  Text.joined "\n" (before ++ [row found, pointer] ++ after)

end Excerpt

/-- The place of a fault: the file, unless it has no name, and the line and the column, from 1. -/
def Mark.text (mark : Mark) (path : String) : String :=
  (if path.isEmpty then "" else "in \"" ++ path ++ "\" ") ++
    "(" ++ toString (mark.line + 1) ++ ":" ++ toString (mark.column + 1) ++ ")"

/-- The text of a fault in a file with the given units. -/
def Fault.text (fault : Fault) (path : String) (units : List Nat) : String :=
  match fault.mark with
  | none => fault.complaint.message
  | some mark =>
    fault.complaint.message ++ " " ++ mark.text path ++
      (if units.isEmpty then "" else "\n\n" ++ Excerpt.text units mark)

end ComposeLint.Yaml
