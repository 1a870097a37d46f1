import ComposeLint.Text.Search
import ComposeLint.Text.Units

/-!
# Variable substitutions

A manifest may refer to variables as `$NAME`, `${NAME}` or `${NAME:-default}`; `$$` stands for
a dollar. Nothing here resolves a reference. `mark` reads a text from left to right and says
of each character whether it is *exposed*: outside every `${…}` group and no part of an
escape. A separator cuts a text only where it is exposed, and all cuts are read off the marks. Texts
that are given by their units are read in the same way in `ComposeLint.Substitution.Units`.
-/

namespace ComposeLint.Substitution

/-- A character and whether it is exposed. -/
abbrev Marked := Char × Bool

/-- The marks of a text that is read inside `depth` open groups. An escape and the opening of a
group take two characters; a closing brace outside every group is an ordinary character. -/
def mark : Nat → List Char → List Marked
  | _, [] => []
  | depth, '$' :: '$' :: rest => ('$', false) :: ('$', false) :: mark depth rest
  | depth, '$' :: '{' :: rest => ('$', false) :: ('{', false) :: mark (depth + 1) rest
  | depth + 1, '}' :: rest => ('}', false) :: mark depth rest
  | depth, c :: rest => (c, depth == 0) :: mark depth rest

/-- The characters that carry the marks. -/
def unmark (marked : List Marked) : List Char := marked.map Prod.fst

/-- Whether a marked character is an exposed `sep`. Only a character of one unit separates. -/
def isCut (sep : Char) (m : Marked) : Bool := m.2 && m.1 == sep && Text.unitsOf sep == 1

/-- The parts of marked text between its cuts. -/
def parts (sep : Char) : List Marked → List (List Char)
  | [] => [[]]
  | m :: rest =>
    if isCut sep m then [] :: parts sep rest
    else
      match parts sep rest with
      | [] => [[m.1]]
      | part :: others => (m.1 :: part) :: others

/-- The parts of a text between the exposed occurrences of `sep`. -/
def split (sep : Char) (text : List Char) : List (List Char) := parts sep (mark 0 text)

/-- The text before and after the first exposed occurrence of `sep`. -/
def cutFirst? (sep : Char) (text : List Char) : Option (List Char × List Char) :=
  (Text.cutFirst? (isCut sep) (mark 0 text)).map fun cut => (unmark cut.1, unmark cut.2)

/-- The text before and after the last exposed occurrence of `sep`. -/
def cutLast? (sep : Char) (text : List Char) : Option (List Char × List Char) :=
  (Text.cutLast? (isCut sep) (mark 0 text)).map fun cut => (unmark cut.1, unmark cut.2)

/-! ## References -/

/-- The characters that a variable name may begin with. -/
def beginsName (c : Char) : Bool := c.isAlpha || c == '_'

/-- The characters that a variable name may go on with. -/
def continuesName (c : Char) : Bool := c.isAlphanum || c == '_'

/-- Whether the text after a dollar makes it a reference: an opening brace or a name. -/
def opensReference : List Char → Bool
  | c :: _ => c == '{' || beginsName c
  | [] => false

/-- Whether a text after the character `before` contains a dollar that no dollar precedes and that
opens a reference. -/
def referenceAfter (before : Option Char) : List Char → Bool
  | [] => false
  | c :: rest =>
    (c == '$' && before != some '$' && opensReference rest) || referenceAfter (some c) rest

/-- Whether the text refers to a variable. A dollar right after another dollar does not count. -/
def occursIn (text : List Char) : Bool := referenceAfter none text

/-- Whether the text is one `$NAME` and nothing else. -/
def isBareReference : List Char → Bool
  | '$' :: c :: rest => beginsName c && rest.all continuesName
  | _ => false

/-- Whether the text begins with a group. -/
def beginsWithGroup : List Char → Bool
  | '$' :: '{' :: _ => true
  | _ => false

end ComposeLint.Substitution
