/-!
# How far two words are apart

The distance of two words is the least number of edits that turn one into the other, where an
edit leaves a letter out, puts one in, replaces one or exchanges two neighbours, and no part of
a word is edited twice. `distance` fills the usual table row by row. A row belongs to a start of
the first word and holds its distances from all starts of the second.
-/

namespace ComposeLint.Text

variable {α : Type} [DecidableEq α]

/-- The rest of the row for a start that ends in `x`. `row` is the row of the start without `x`,
from the entry before the one to be filled, and `older` is the row before that one, two entries
further back. `last?` is the letter before `x`, `passed?` the letter before the rest of the second
word, and `left` the entry filled last. -/
def fillRow (x : α) (last? : Option α) : List α → List Nat → List Nat → Option α → Nat → List Nat
  | y :: word, diagonal :: above :: row, older, passed?, left =>
    let edited := min (min (above + 1) (left + 1)) (if x = y then diagonal else diagonal + 1)
    let entry :=
      if last? = some y ∧ passed? = some x then min edited (older.headD 0 + 1) else edited
    entry :: fillRow x last? word (above :: row) older.tail (some y) entry
  | _, _, _, _, _ => []

/-- The last row of the table, from the rows before the rest of the first word. -/
def lastRow (second : List α) : List α → Option α → List Nat → List Nat → List Nat
  | [], _, row, _ => row
  | x :: word, last?, row, older =>
    let first := row.headD 0 + 1
    lastRow second word (some x) (first :: fillRow x last? second row (0 :: older) none first) row

/-- **The distance of two words.** -/
def distance (first second : List α) : Nat :=
  (lastRow second first none (List.range (second.length + 1)) []).getLastD 0

end ComposeLint.Text
