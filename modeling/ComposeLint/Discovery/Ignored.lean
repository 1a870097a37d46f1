import ComposeLint.Discovery.Pattern
import ComposeLint.FileTree

/-!
# What is not searched

Some patterns say what is ignored. They are matched against whole paths, given as their texts
between slashes, with and without a slash at the end. A pattern that ends in `**` also keeps a
search from going on at all.
-/

namespace ComposeLint.Discovery

/-! ## Whole paths -/

/-- Whether parts without `**` match a path. A slash at the end of the path is ignored. -/
def agree : List Part → List String → Bool
  | [], names => names.isEmpty || names == [""]
  | part :: parts, name :: names => part.fits true name && agree parts names
  | _ :: _, [] => false

/-- Whether a part is `**`. -/
def Part.isAnyDepth : Part → Bool
  | .anyDepth => true
  | _ => false

/-- The parts between each `**`. -/
def sections : List Part → List (List Part)
  | [] => [[]]
  | part :: rest =>
    if part.isAnyDepth then [] :: sections rest
    else
      match sections rest with
      | [] => [[part]]
      | segment :: more => (part :: segment) :: more

/-- How many names from its start on a section may be looked for: each section is paired with the
sum of the lengths of as many sections from the start as follow it. -/
def reaches (sizes : List Nat) : List Nat :=
  ((List.range sizes.length).map fun i => (sizes.take i).foldl Nat.add 0).reverse

/-- The first answer along a path other than "no", for at most `count` places. There is no answer
when the places run out, and "no" when a step back is in the way. -/
def firstAnswer (answer : List String → Option Bool) : Nat → List String → Option Bool
  | 0, _ => none
  | count + 1, names =>
    match answer names with
    | some false =>
      match names with
      | [] => firstAnswer answer count []
      | name :: rest => if isStep name then some false else firstAnswer answer count rest
    | found => found

/-- Whether sections match a path in their order, with directories in between; `limit` is the number
of names before the end that is matched already, and `hasEnd` says whether there are any. -/
def follow (size limit : Nat) (hasEnd : Bool) : List (List Part × Nat) → List String → Option Bool
  | [], names =>
    if names.any isStep then some false else some (hasEnd || !names.isEmpty)
  | (segment, reach) :: rest, names =>
    let room : Int := (size : Int) - limit - reach - segment.length
    let passed : Int := size - names.length
    firstAnswer
      (fun names =>
        if segment.length ≤ names.length && agree segment (names.take segment.length) then
          follow size limit hasEnd rest (names.drop segment.length)
        else some false)
      (room - passed + 1).toNat names

/-- The number of names at the end of a path that parts match. -/
def endMatch? (parts : List Part) (names : List String) : Option Nat :=
  let size := parts.length
  if names.length < size then none
  else if agree parts (names.drop (names.length - size)) then some size
  else if names.getLast? == some "" && size < names.length &&
      agree parts (names.drop (names.length - size - 1)) then some (size + 1)
  else none

/-- **Whether parts match a whole path.** A `**` at the end matches at least one name. -/
def matchesPath (parts : List Part) (names : List String) : Bool :=
  match sections parts with
  | [] | [_] => agree parts names
  | head :: rest =>
    let middle := rest.dropLast
    let tail := rest.getLast?.getD []
    let left := names.drop head.length
    if !agree head (names.take head.length) then false
    else
      match endMatch? tail left with
      | none => false
      | some ended =>
        let hasEnd := ended != 0
        if middle.isEmpty then
          let between := left.take (left.length - ended)
          !between.any isStep && (hasEnd || !between.isEmpty)
        else
          follow left.length ended hasEnd (middle.zip (reaches (middle.map List.length))) left ==
            some true

/-! ## Ignoring -/

/-- What is ignored. -/
structure Ignored where
  /-- Patterns any of which may match. -/
  patterns : List Pattern
  /-- Whether paths from the root are matched. -/
  isAbsolute : Bool
  /-- Whether everything below what is ignored is ignored. -/
  coversChildren : Bool
  deriving Repr

namespace Ignored

/-- A pattern without the points at its start. -/
def withoutPoints : Texts → List Part → Texts × List Part
  | "." :: texts, .name "." :: parts => withoutPoints texts parts
  | texts, parts => (texts, parts)

/-- What a pattern ignores. The braces that are left in it list alternatives once more. -/
def ofPattern (pattern : Pattern) : Except PatternFault Ignored := do
  let (texts, parts) := withoutPoints pattern.texts pattern.parts
  if parts.isEmpty then .error .noParts
  else
    .ok
      { patterns := ← Pattern.ofText true (Text.joined "/" texts)
        isAbsolute := Pattern.isAbsolute { texts, parts }
        coversChildren := texts.getLast? == some "**" }

/-- **What a text says is ignored.** -/
def ofText (text : String) : Except PatternFault (List Ignored) := do
  (← Pattern.ofText true text).mapM ofPattern

/-- Whether a path is matched. -/
def covers (ignored : Ignored) (names : List String) : Bool :=
  ignored.patterns.any fun pattern => matchesPath pattern.parts (Texts.squeezed names)

end Ignored

/-- The names of a place from the root. -/
def absoluteNames (place : Place) : List String := if place.isEmpty then ["", ""] else "" :: place

/-- The names that lead from one place to another. -/
def relativeNames : Place → Place → List String
  | a :: origin, b :: place =>
    if a == b then relativeNames origin place
    else List.replicate (origin.length + 1) ".." ++ b :: place
  | origin, place => List.replicate origin.length ".." ++ place

/-- The names that lead from one place to another, or a point if they are the same. -/
def shownNames (origin place : Place) : List String :=
  match relativeNames origin place with
  | [] => ["."]
  | names => names

/-- Whether a place is ignored. -/
def isIgnored (ignored : List Ignored) (origin place : Place) : Bool :=
  ignored.any fun one =>
    let names := if one.isAbsolute then absoluteNames place else shownNames origin place
    one.covers names || (!(one.isAbsolute && place.isEmpty) && one.covers (names ++ [""]))

/-- Whether a search does not go on at a place. -/
def isClosed (ignored : List Ignored) (origin place : Place) : Bool :=
  ignored.any fun one =>
    let names := if one.isAbsolute then absoluteNames place else shownNames origin place
    one.coversChildren &&
      one.covers (if one.isAbsolute && place.isEmpty then names else names ++ [""])

end ComposeLint.Discovery
