import ComposeLint.CommandLine.Flag
import ComposeLint.Text.Distance
import ComposeLint.Text.Units

/-!
# Suggestions

An unknown flag is most likely a misspelt one. Those are suggested that are nearest to it, if
they are near at all: within `maxDistance` edits, which have to be fewer than three in five
letters of the longer word.
-/

namespace ComposeLint.Suggestion

/-- How many edits a suggestion may be away. -/
def maxDistance : Nat := 3

/-- A long name of a flag without its dashes, in units. -/
def word (name : String) : List Nat := (name.toList.drop 2).flatMap Text.unitValues

/-- Whether a distance is small for the length of the longer word. -/
def isClose (distance length : Nat) : Bool := 2 * length < 5 * (length - distance)

/-- How far a flag is from an argument, if it is near. -/
def nearness? (argument candidate : String) : Option Nat :=
  let given := word argument
  let wanted := word candidate
  let distance := Text.distance given wanted
  if distance ≤ maxDistance ∧ isClose distance (max given.length wanted.length) then some distance
  else none

/-- The names of the flags nearest to an argument, in the order of their letters. -/
def nearest (argument : String) : List String :=
  let near := Flag.all.filterMap fun flag =>
    (nearness? argument flag.long).map fun distance => (distance, flag.long)
  match (near.map Prod.fst).min? with
  | some least =>
    ((near.filter (·.1 = least)).map Prod.snd).mergeSort Text.unitsLe
  | none => []

/-- The line that suggests flags for an argument. Only long flags are suggested, and only for what
looks like one. -/
def text (argument : String) : String :=
  if !"--".toList.isPrefixOf argument.toList then ""
  else
    match nearest argument with
    | [] => ""
    | [name] => "\n(Did you mean " ++ name ++ "?)"
    | names => "\n(Did you mean one of " ++ Text.joined ", " names ++ "?)"

end ComposeLint.Suggestion
