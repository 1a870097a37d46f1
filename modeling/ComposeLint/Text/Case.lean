import ComposeLint.Text.Case.Mapping
import ComposeLint.Text.Case.Classes

/-!
# Capitals and small letters

The full case mappings of Unicode, free of any locale. A character may map to several, so
both directions map a text to a text. Only the capital sigma looks at its surroundings: at
the end of a word it becomes the final small sigma.
-/

namespace ComposeLint.Text

/-- The image of a code point under a mapping given by sequences and runs; a code point that
neither names stays. -/
def mapCase (sequences : List (Nat × List Nat)) (runs : List CaseRun) (c : Char) : List Char :=
  match sequences.lookup c.toNat with
  | some image => image.map Char.ofNat
  | none =>
    match runs.findSome? fun run => run.apply? c.toNat with
    | some n => [Char.ofNat n]
    | none => [c]

/-- The capital form of a character. -/
def upperChar (c : Char) : List Char :=
  if c.toNat < 0x80 then [c.toUpper] else mapCase capitalSequences capitalRuns c

/-- The small form of a character, with the plain form of the small sigma. -/
def lowerChar (c : Char) : List Char :=
  if c.toNat < 0x80 then [c.toLower] else mapCase smallSequences smallRuns c

/-- The text in capitals. -/
def upper (cs : List Char) : List Char := cs.flatMap upperChar

/-- Whether a sigma between `before` (nearest character first) and `after` ends a word: a cased
letter precedes it and none follows, ignorable characters passed over. -/
def endsWord (before after : List Char) : Bool :=
  (before.dropWhile isIgnorable).head?.any isCased &&
    !(after.dropWhile isIgnorable).head?.any isCased

/-- The small form of the text that follows `before`, which is given nearest character first. -/
def lowerAfter (before : List Char) : List Char → List Char
  | [] => []
  | c :: rest =>
    (if c == 'Σ' && endsWord before rest then ['ς'] else lowerChar c) ++
      lowerAfter (c :: before) rest

/-- The text in small letters. -/
def lower (cs : List Char) : List Char := lowerAfter [] cs

/-- The text in small letters, for a `String`. -/
def lowered (s : String) : String := String.ofList (lower s.toList)

end ComposeLint.Text
