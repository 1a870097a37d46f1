import ComposeLint.Yaml.Tag

/-!
# Entries of a mapping under construction

Keys become texts and may not be set twice. A merge key takes over the entries of other
mappings: a key that is present stays as it is, and one that was taken over may be set once
more, which keeps its place. How much merges take over in a whole text is limited.
-/

namespace ComposeLint.Yaml

/-- The entries so far. -/
structure Entries where
  table : Table Tree := .empty
  /-- Keys that were taken over and not set since. -/
  borrowed : List String := []

namespace Entries

/-- How many mappings one merge key may take over. -/
def maxMerged : Nat := 100

/-- The text of a key that is no list. -/
def scalarKey : Tree → String
  | .null => "null"
  | .bool true => "true"
  | .bool false => "false"
  | .number n => n.text
  | .text s => s
  | .date t => t.longText
  | .bytes octets => Text.joined "," (octets.map toString)
  | .list _ => ""
  | _ => "[object Object]"

/-- The text of an item of a list that is a key. -/
def itemKey? : Tree → Option String
  | .list _ => none
  | .null => some ""
  | item => some (scalarKey item)

/-- The text of a key. A list inside a list is refused. -/
def key? : Tree → Option String
  | .list items => (items.mapM itemKey?).map (Text.joined ",")
  | key => some (scalarKey key)

/-- The entries that can be taken over from a value: those of a mapping, and the items of a list by
their positions. -/
def source? : Tree → Option (List (String × Tree))
  | .list items => some (items.zipIdx.map fun (item, i) => (toString i, item))
  | .date _ => some []
  | value => value.entries?

/-- Takes over one entry, unless its key is present. -/
def borrow (entries : Entries) (entry : String × Tree) : Entries :=
  if (entries.table.get? entry.1).isSome then entries
  else
    { table := entries.table.insert entry.1 entry.2
      borrowed := entry.1 :: entries.borrowed }

/-- Takes over the entries of one value; `merged` is what was taken over before. -/
def merge? (entries : Entries) (merged : Nat) (value : Tree) :
    Except Complaint (Entries × Nat) :=
  match source? value with
  | some found =>
    let merged := merged + found.length + 1
    if maxMergedTotal < merged then .error .tooMuchMerged
    else .ok (found.foldl borrow entries, merged)
  | none => .error .unmergeable

/-- Takes over the entries of a value, or of all items of a list. -/
def mergeAll? (entries : Entries) (merged : Nat) (value : Tree) :
    Except Complaint (Entries × Nat) :=
  match value with
  | .list items =>
    if maxMerged < items.length then .error .tooManyMerged
    else items.foldlM (fun (entries, merged) item => entries.merge? merged item) (entries, merged)
  | value => entries.merge? merged value

/-- Sets a key. -/
def set? (entries : Entries) (key : String) (value : Tree) : Except Complaint Entries :=
  if (entries.table.get? key).isSome && !entries.borrowed.contains key then .error .duplicateKey
  else
    .ok
      { table := entries.table.insert key value
        borrowed := entries.borrowed.filter (· != key) }

/-- The finished mapping. -/
def tree (entries : Entries) : Tree := .mapping entries.table.entries

end Entries

/-- A mark that takes the place of another one. A part that is zero does not count. -/
def Mark.orElse (first other : Mark) : Mark :=
  { offset := if first.offset = 0 then other.offset else first.offset
    line := if first.line = 0 then other.line else first.line
    lineStart := if first.lineStart = 0 then other.lineStart else first.lineStart }

open Reading in
/-- Adds an entry whose key was found at `start`; there a repeated key is reported, and all else at
the present place. The tag of the key decides whether the value is merged. -/
def Entries.add (entries : Entries) (tag : Option String) (key value : Tree) (start : Mark) :
    Reading Entries := do
  match key? (← view key) with
  | none => fail .nestedListInKey
  | some name =>
    if tag == some Tag.mergeText then
      match entries.mergeAll? (← get).merged (← view value) with
      | .ok (entries, merged) =>
        modify fun state => { state with merged }
        return entries
      | .error complaint => fail complaint
    else
      match entries.set? name value with
      | .ok entries => return entries
      | .error complaint => throw ⟨complaint, some (start.orElse (← place).mark)⟩

end ComposeLint.Yaml
