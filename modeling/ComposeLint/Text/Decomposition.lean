import ComposeLint.Text.Decomposition.Forms
import ComposeLint.Text.Decomposition.Marks
import ComposeLint.Text.Search

/-!
# Texts that look alike

A letter with a mark can be one character or two, and some characters are others in disguise.
`Text.decomposed` takes every character apart and puts the marks in their order, so that texts that
look alike become the same.
-/

namespace ComposeLint.Text

/-! ## Forms -/

/-- The value of a digit to the base 16. -/
def digitOf (c : Char) : Nat := if c.isDigit then c.toNat - '0'.toNat else c.toNat - 'A'.toNat + 10

/-- The code points of a form. -/
def pointsOfForm (form : List Char) : List Nat :=
  (pieces '+' form).map fun digits => digits.foldl (fun value c => 16 * value + digitOf c) 0

/-- What a run says of a code point. -/
def FormRun.form? (run : FormRun) (n : Nat) : Option (List Nat) :=
  if run.first ≤ n && n ≤ run.last then some [run.target + (n - run.first)] else none

/-- What a row says of a code point. A row has no more forms than bytes. -/
def FormRow.form? (row : FormRow) (n : Nat) : Option (List Nat) :=
  if row.first ≤ n && n < row.first + row.forms.utf8ByteSize then
    (pieces ' ' row.forms.toList)[n - row.first]?.map pointsOfForm
  else none

/-- All rows. -/
def formRows : List FormRow :=
  latinForms ++ indicForms ++ accentedForms ++ symbolForms ++ squareForms ++ ideographForms ++
    presentationForms ++ supplementaryForms

/-- The letters of a syllable of Hangul: one to begin with, a vowel, and maybe one to end with. -/
def syllableForm? (n : Nat) : Option (List Nat) :=
  if 0xAC00 ≤ n && n ≤ 0xD7A3 then
    let i := n - 0xAC00
    let ending := if i % 28 = 0 then [] else [0x11A7 + i % 28]
    some ([0x1100 + i / 588, 0x1161 + i % 588 / 28] ++ ending)
  else none

/-- What a code point is made of. Below U+00A0 that is itself. -/
def formOf (n : Nat) : List Nat :=
  if n < 0xA0 then [n]
  else
    (((syllableForm? n).or (formRuns.findSome? (·.form? n))).or
      (formRows.findSome? (·.form? n))).getD [n]

/-! ## The order of marks -/

/-- Puts a code point behind others, the last one of which comes first. A mark goes before the marks
of higher classes. -/
def placed (n : Nat) : List Nat → List Nat
  | [] => [n]
  | m :: rest =>
    if markClass n != 0 && markClass n < markClass m then m :: placed n rest else n :: m :: rest

/-- Code points with their marks in order. -/
def arranged (ns : List Nat) : List Nat := (ns.foldl (fun before n => placed n before) []).reverse

/-! ## Comparing -/

/-- What a text is made of. -/
def decomposed (s : String) : List Nat := arranged (s.toList.flatMap fun c => formOf c.toNat)

/-- Whether two texts look alike. -/
def lookAlike (s t : String) : Bool := s == t || decomposed s == decomposed t

end ComposeLint.Text
