import ComposeLint.Tree
import ComposeLint.Text.Search

/-!
# Circles in a tree

A tree with a ring has no finite text. `Tree.circle?` walks through a tree as a writer would,
remembers the collections that it is inside of, and gives the first circle that it comes to: the
collection where the circle starts, the collections passed since then, and the step that leads
back. `Circle.message` describes it, with the long middle of a circle left out.
-/

namespace ComposeLint

/-- How a member of a collection is reached. -/
inductive Entrance where
  | position (i : Nat)
  | key (name : String)
  deriving DecidableEq, Repr

/-- The wording of an entrance. -/
def Entrance.text : Entrance → String
  | position i => "index " ++ toString i
  | key name => if name.isEmpty then "<anonymous>" else "property '" ++ name ++ "'"

/-- A collection on the way into a tree. -/
structure Passage where
  /-- How it was reached. -/
  entrance : Entrance
  isList : Bool
  /-- Its number, if it is a ring. -/
  number : Option Nat
  deriving DecidableEq, Repr

/-- The sort of a collection. -/
def Passage.sort (passage : Passage) : String := if passage.isList then "'Array'" else "'Object'"

/-- A way that leads back to where it started. -/
structure Circle where
  start : Passage
  /-- What was passed since the start. -/
  inner : List Passage
  /-- The step that leads back. -/
  closing : Entrance
  deriving Repr

namespace Circle

/-- The line of a collection that was passed. -/
def line (passage : Passage) : String :=
  "\n    |     " ++ passage.entrance.text ++ " -> object with constructor " ++ passage.sort

/-- The lines of the collections that were passed: the first two and the last one, with a mark for
those between them. -/
def lines (inner : List Passage) : List String :=
  let others := inner.drop 2
  let gap := if 1 < others.length then ["\n    |     ..."] else []
  (inner.take 2).map line ++ gap ++ (others.drop (others.length - 1)).map line

/-- The wording of a circle. -/
def message (circle : Circle) : String :=
  "Converting circular structure to JSON\n    --> starting at object with constructor " ++
    circle.start.sort ++ Text.joined "" (lines circle.inner) ++
    "\n    --- " ++ circle.closing.text ++ " closes the circle"

end Circle

namespace Tree

/-- The circle that a step to a ring closes, if that ring is on the way; the way has its last
collection first. -/
def closed? (way : List Passage) (step : Entrance) (n : Nat) : Option Circle :=
  match way.dropWhile (·.number != some n) with
  | [] => none
  | start :: _ => some ⟨start, (way.takeWhile (·.number != some n)).reverse, step⟩

mutual
/-- The first circle on the way into a tree that is reached by a step. The tree may be the content
of a ring of the given number. -/
def circleFrom? (way : List Passage) (step : Entrance) (ring : Option Nat) :
    Tree → Option Circle
  | .list items => circleInItems? (⟨step, true, ring⟩ :: way) 0 items
  | .mapping entries =>
    (readingOrder (circleInEntries? (⟨step, false, ring⟩ :: way) entries)).findSome? Prod.snd
  | .ring n content => (closed? way step n).or (circleFrom? way step (some n) content)
  | .again n => closed? way step n
  | _ => none

/-- The first circle on the way into an item of a list. -/
def circleInItems? (way : List Passage) (i : Nat) : List Tree → Option Circle
  | [] => none
  | item :: rest =>
    (circleFrom? way (.position i) none item).or (circleInItems? way (i + 1) rest)

/-- The first circle on the way into each value of a mapping. -/
def circleInEntries? (way : List Passage) :
    List (String × Tree) → List (String × Option Circle)
  | [] => []
  | (key, value) :: rest =>
    (key, circleFrom? way (.key key) none value) :: circleInEntries? way rest
end

/-- The first circle that a writer of a tree would come to. -/
def circle? (tree : Tree) : Option Circle := circleFrom? [] (.key "") none tree

end Tree
end ComposeLint
