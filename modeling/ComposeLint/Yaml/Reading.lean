import ComposeLint.Yaml.Cursor

/-!
# Reading

A reader of YAML carries its place along, the nodes that have a name and the declared tag
handles. A collection that has a name also has a number, and a `Draft` says what it holds so
far: an alias inside it stands for the collection as it is going to be, while a merge takes over
what is there at the moment. `Reading.view` is a tree as it is now.
-/

namespace ComposeLint.Yaml

/-- What a collection holds. -/
inductive Draft where
  /-- The items so far, the last one first. -/
  | sequence (reversed : List Tree)
  | mapping (entries : List (String × Tree))
  /-- The collection is complete. -/
  | complete (tree : Tree)

/-- A draft as a tree. -/
def Draft.tree : Draft → Tree
  | sequence reversed => .list reversed.reverse
  | mapping entries => .mapping entries
  | complete tree => tree

/-- What a reader carries along. -/
structure State where
  cursor : Cursor
  /-- Named nodes, the latest first. -/
  anchors : List (String × Tree) := []
  handles : List (String × String) := []
  /-- The collections that have a number, in the order of their numbers. -/
  drafts : Array Draft := #[]
  /-- Whether an alias stood inside the collection that it names. -/
  hasRings : Bool := false
  /-- What merges have taken over in all. -/
  merged : Nat := 0

/-- A step of reading, which may end in a fault. -/
abbrev Reading (α : Type) := StateT State (Except Fault) α

namespace Reading

/-- Gives up at the present place. -/
def fail {α : Type} (complaint : Complaint) : Reading α := fun state =>
  .error ⟨complaint, some state.cursor.mark⟩

/-- The present place. -/
def place : Reading Cursor := return (← get).cursor

/-- Goes on at a place. -/
def goTo (cursor : Cursor) : Reading Unit := modify fun state => { state with cursor }

/-- Steps over one character. -/
def step : Reading Unit := modify fun state => { state with cursor := state.cursor.step }

/-- Skips blanks, line breaks and comments, and gives the number of line breaks. -/
def skip : Reading Nat := do
  let (breaks, cursor) := (← place).skip true
  goTo cursor
  return breaks

/-! ## Names -/

/-- Gives a node a name. -/
def register (anchor : Option String) (value : Tree) : Reading Unit :=
  match anchor with
  | some name => modify fun state => { state with anchors := (name, value) :: state.anchors }
  | none => return

/-- The node of a name. A collection that is not complete is referred to by its number. -/
def named? (name : String) : Reading (Option Tree) := do
  let state ← get
  match state.anchors.lookup name with
  | some (.again number) =>
    match state.drafts[number]? with
    | some (.complete tree) => return some tree
    | _ =>
      set { state with hasRings := true }
      return some (.again number)
  | found => return found

/-! ## Collections -/

/-- Begins a collection. One that has a name gets a number. -/
def begin (anchor : Option String) (draft : Draft) : Reading (Option Nat) := do
  if anchor.isNone then return none
  let number := (← get).drafts.size
  modify fun state => { state with drafts := state.drafts.push draft }
  register anchor (.again number)
  return some number

/-- Notes what a collection holds now. -/
def note (number : Option Nat) (draft : Draft) : Reading Unit :=
  match number with
  | some number =>
    modify fun state => { state with drafts := state.drafts.setIfInBounds number draft }
  | none => return

/-- A collection as a ring, if anything in it comes again. -/
def ringed (number : Option Nat) (tree : Tree) : Reading Tree := do
  let state ← get
  if state.hasRings && tree.refers then
    match number with
    | some number => return .ring number tree
    | none =>
      set { state with drafts := state.drafts.push (.complete tree) }
      return .ring state.drafts.size tree
  else return tree

/-- Completes a collection. -/
def complete (number : Option Nat) (tree : Tree) : Reading Tree := do
  let tree ← ringed number tree
  note number (.complete tree)
  return tree

/-- What a tree is now, among collections that may be incomplete. -/
def head (drafts : Array Draft) (tree : Tree) : Tree :=
  let known :=
    match tree with
    | .again number => ((drafts[number]?).map Draft.tree).getD tree
    | tree => tree
  match known with
  | .ring _ content => content
  | tree => tree

/-- What a tree and, if it is a list, its items are now. -/
def view (tree : Tree) : Reading Tree := do
  let drafts := (← get).drafts
  match head drafts tree with
  | .list items => return .list (items.map (head drafts))
  | tree => return tree

/-- A tree in which everything that comes again is a ring around it. The depth bounds how many
rings are put in one inside the other. -/
def tied (drafts : Array Draft) : Nat → List Nat → Tree → Tree
  | 0, _, tree => tree
  | depth + 1, around, tree =>
    tree.graft (fun around number =>
      if around.contains number then .again number
      else
        match drafts[number]? with
        | some draft => tied drafts depth around draft.tree
        | none => .again number) around

end Reading
end ComposeLint.Yaml
