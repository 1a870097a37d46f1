import ComposeLint.Discovery.Brace
import ComposeLint.Discovery.Part
import ComposeLint.Discovery.Simplification

/-!
# Path patterns

A pattern is a path in which names may be wildcards and `**` stands for any number of directories.
Braces list alternatives, so that one text can give several patterns. A name that begins with a
point is hidden: only a pattern that spells out the point matches it, unless hidden names are asked
for.
-/

namespace ComposeLint.Discovery

/-- A pattern for paths. -/
structure Pattern where
  /-- The texts of the parts, as they are written. -/
  texts : Texts
  parts : List Part
  deriving Repr

namespace Pattern

/-- The number of units that a pattern may have. -/
def sizeLimit : Nat := 65536

/-- The texts between slashes; slashes that follow each other are one. -/
def cut (cs : List Char) : Texts :=
  let pieces := Text.pieces '/' cs
  match pieces with
  | [] => []
  | first :: rest =>
    let last := rest.getLast?.toList
    ((first :: rest.dropLast.filter (!·.isEmpty)) ++ last).map String.ofList

/-- The patterns that texts are the parts of. -/
def ofTexts (withHidden : Bool) (texts : Texts) : Except PatternFault Pattern := do
  .ok { texts, parts := ← texts.mapM (Part.ofText withHidden) }

/-- **The patterns that a text stands for.** An empty text stands for none. -/
def ofText (withHidden : Bool) (text : String) : Except PatternFault (List Pattern) :=
  if sizeLimit < Text.units text.toList then .error .tooLong
  else if text.isEmpty then .ok []
  else
    let alternatives := (Brace.expansions text.toList).eraseDups.map cut
    (Texts.withoutCovered withHidden (Texts.simplified alternatives)).mapM (ofTexts withHidden)

/-- Whether a pattern starts from the root. -/
def isAbsolute (pattern : Pattern) : Bool :=
  match pattern.parts with
  | .name "" :: _ :: _ => true
  | _ => false

end Pattern
end ComposeLint.Discovery
