import ComposeLint.Number
import ComposeLint.Instant
import ComposeLint.Table

/-!
# Trees of plain data

What a manifest or a profile is before it is read as one: scalars, lists and mappings. A
mapping holds its entries as they were written; `Tree.entries?` is the view that everything
else reads, in which a repeated key is resolved and the keys are in reading order. A byte
string counts as a mapping from positions to bytes.

A collection may stand inside itself. It is then a `ring`, which has a number, and `again` is
the place where the ring of that number around it comes once more. `Tree.unrolled` opens a ring:
its members are trees in their own right, in which the whole ring stands where it comes again.
-/

namespace ComposeLint

/-- Plain data, as a document holds it. -/
inductive Tree where
  | null
  | bool (value : Bool)
  | number (value : Number)
  | text (value : String)
  | list (items : List Tree)
  | mapping (entries : List (String × Tree))
  | date (value : Instant)
  | bytes (octets : List Nat)
  /-- A collection that may stand inside itself. -/
  | ring (number : Nat) (content : Tree)
  /-- The ring of that number around this place. -/
  | again (number : Nat)
  deriving Repr, Inhabited

namespace Tree

/-! ## Rings -/

mutual
/-- Puts trees where rings come again: `f` is told which rings are around the place, and which one
comes again there. -/
def graft (f : List Nat → Nat → Tree) (around : List Nat) : Tree → Tree
  | .again n => f around n
  | .ring n content => .ring n (graft f (n :: around) content)
  | .list items => .list (graftItems f around items)
  | .mapping entries => .mapping (graftEntries f around entries)
  | other => other

/-- Puts trees where rings come again in the items of a list. -/
def graftItems (f : List Nat → Nat → Tree) (around : List Nat) : List Tree → List Tree
  | [] => []
  | item :: rest => graft f around item :: graftItems f around rest

/-- Puts trees where rings come again in the values of a mapping. -/
def graftEntries (f : List Nat → Nat → Tree) (around : List Nat) :
    List (String × Tree) → List (String × Tree)
  | [] => []
  | (key, value) :: rest => (key, graft f around value) :: graftEntries f around rest
end

/-- A ring opened; any other tree is itself. -/
def unrolled : Tree → Tree
  | .ring n content =>
    content.graft (fun around m =>
      if m = n && !around.contains m then .ring n content else .again m) []
  | tree => tree

mutual
/-- Whether a ring comes again anywhere in a tree. -/
def refers : Tree → Bool
  | .again _ => true
  | .ring _ content => refers content
  | .list items => refersItems items
  | .mapping entries => refersEntries entries
  | _ => false

/-- Whether a ring comes again in an item of a list. -/
def refersItems : List Tree → Bool
  | [] => false
  | item :: rest => refers item || refersItems rest

/-- Whether a ring comes again in a value of a mapping. -/
def refersEntries : List (String × Tree) → Bool
  | [] => false
  | (_, value) :: rest => refers value || refersEntries rest
end

/-! ## Members -/

/-- The bytes of a byte string by their positions. -/
def octetEntries (octets : List Nat) : List (String × Tree) :=
  octets.zipIdx.map fun (octet, i) => (toString i, .number (.ofNat octet))

/-- The entries of a mapping in reading order; none for anything that has no keys. -/
def entries? (tree : Tree) : Option (List (String × Tree)) :=
  match tree.unrolled with
  | .mapping entries => some (readingOrder entries)
  | .bytes octets => some (octetEntries octets)
  | _ => none

/-- The items of a list; none for anything else. -/
def items? (tree : Tree) : Option (List Tree) :=
  match tree.unrolled with
  | .list items => some items
  | _ => none

/-- A natural number as data. -/
def nat (n : Nat) : Tree := .number (.ofNat n)

/-- A list of texts as data. -/
def texts (items : List String) : Tree := .list (items.map .text)

end Tree
end ComposeLint
