import ComposeLint.Text.Search
import ComposeLint.Text.Shown

/-!
# Trees of files

A `FileTree` is the part of a disk that a run can see: the texts of files, directories, and the
place that relative paths start from. Nothing but `FileTree.write` changes a tree, and it changes
one file at most.

A path is turned into a place in one of two ways. `resolve` works on the text alone, so that
`..` takes back the name before it whatever that name is. `follow` walks through the tree, and
every name on the way has to be a directory.
-/

namespace ComposeLint

/-- A place in a tree: the names from the root to it. -/
abbrev Place := List String

/-- What can be wrong with a file. Where the path is part of the wording, it is the one that was
asked for. -/
inductive FileFault where
  | missing (path : String)
  /-- Something on the way is a file. -/
  | notADirectory (path : String)
  /-- A directory is to be read. -/
  | readsDirectory
  /-- A directory is to be written. -/
  | writesDirectory (path : String)
  /-- The path, or a name on the way, has more bytes than a disk takes. -/
  | tooLong (path : String)
  /-- The path has a null character in it. -/
  | nullCharacter (path : String)
  deriving DecidableEq, Repr

/-- The wording of a fault. -/
def FileFault.message : FileFault → String
  | missing path => "ENOENT: no such file or directory, open '" ++ path ++ "'"
  | notADirectory path => "ENOTDIR: not a directory, open '" ++ path ++ "'"
  | readsDirectory => "EISDIR: illegal operation on a directory, read"
  | writesDirectory path => "EISDIR: illegal operation on a directory, open '" ++ path ++ "'"
  | tooLong path => "ENAMETOOLONG: name too long, open '" ++ path ++ "'"
  | nullCharacter path =>
    "The argument 'path' must be a string, Uint8Array, or URL without null bytes. Received " ++
      Text.shown path

/-- The files that a run can see. -/
structure FileTree where
  /-- Where relative paths start. -/
  location : Place
  /-- The texts of the files. -/
  files : List (Place × String)
  /-- Directories that are there, whether or not a file lies in them. -/
  directories : List Place
  deriving DecidableEq, Repr

namespace FileTree

/-! ## Places -/

/-- Goes from a place along names; `.` stays and `..` goes back. -/
def advance (place : Place) : List String → Place
  | [] => place
  | name :: rest =>
    if name == "" || name == "." then advance place rest
    else if name == ".." then advance place.dropLast rest
    else advance (place ++ [name]) rest

/-- The names of a path. -/
def names (path : String) : List String := (Text.pieces '/' path.toList).map String.ofList

/-- Whether a path starts from the root. -/
def isAbsolute (path : String) : Bool := path.toList.head? == some '/'

/-- The place of a path as seen from another place. -/
def resolve (base : Place) (path : String) : Place :=
  advance (if isAbsolute path then [] else base) (names path)

/-- The path from the root to a place. -/
def pathOf (place : Place) : String := "/" ++ Text.joined "/" place

/-! ## Looking -/

/-- The text of a file. -/
def text? (tree : FileTree) (place : Place) : Option String := tree.files.lookup place

/-- Whether there is a directory at a place. Whatever leads to something is one. -/
def isDirectory (tree : FileTree) (place : Place) : Bool :=
  place.isPrefixOf tree.location || tree.directories.any (place.isPrefixOf ·) ||
    tree.files.any fun file => place.isPrefixOf file.1 && file.1 != place

/-- What is wrong with going on from a place. -/
def blocked? (tree : FileTree) (place : Place) (path : String) : Option FileFault :=
  if tree.isDirectory place then none
  else if (tree.text? place).isSome then some (.notADirectory path)
  else some (.missing path)

/-- The number of bytes that a name may have. -/
def nameLimit : Nat := 255

/-- The number of bytes that a path may have. -/
def pathLimit : Nat := 4095

/-- What is wrong with a path that has a null character in it. -/
def nullFault? (path : String) : Option FileFault :=
  if path.toList.contains '\x00' then some (.nullCharacter path) else none

/-- What is wrong with a path that is asked for, wherever it leads. -/
def refused? (path : String) : Option FileFault :=
  (nullFault? path).or (if pathLimit < path.utf8ByteSize then some (.tooLong path) else none)

/-- Goes from a place along names; every place that is left must be a directory. -/
def walk (tree : FileTree) (path : String) : Place → List String → Except FileFault Place
  | place, [] => .ok place
  | place, name :: rest =>
    match tree.blocked? place path with
    | some fault => .error fault
    | none =>
      if nameLimit < name.utf8ByteSize then .error (.tooLong path)
      else walk tree path (advance place [name]) rest

/-- The place that a path leads to from where relative paths start. An empty path leads nowhere. -/
def follow (tree : FileTree) (path : String) : Except FileFault Place :=
  match refused? path with
  | some fault => .error fault
  | none =>
    if path.isEmpty then .error (.missing path)
    else tree.walk path (if isAbsolute path then [] else tree.location) (names path)

/-! ## Reading and writing -/

/-- The text of the file at a place, for a path that names it. -/
def readAt (tree : FileTree) (path : String) (place : Place) : Except FileFault String :=
  match tree.text? place with
  | some text => .ok text
  | none => if tree.isDirectory place then .error .readsDirectory else .error (.missing path)

/-- **Reads** the file of a path as it is written. -/
def read (tree : FileTree) (path : String) : Except FileFault String := do
  tree.readAt path (← tree.follow path)

/-- Reads the file at a place. -/
def readPlace (tree : FileTree) (place : Place) : Except FileFault String := do
  let path := pathOf place
  tree.readAt path (← tree.follow path)

/-- Files with the text of one of them set. -/
def setText (place : Place) (text : String) : List (Place × String) → List (Place × String)
  | [] => [(place, text)]
  | file :: rest =>
    if file.1 = place then (place, text) :: rest else file :: setText place text rest

/-- **Writes** the file at a place. The directory it lies in has to be there. -/
def write (tree : FileTree) (place : Place) (text : String) : Except FileFault FileTree := do
  let path := pathOf place
  let place ← tree.follow path
  if tree.isDirectory place then .error (.writesDirectory path)
  else .ok { tree with files := setText place text tree.files }

/-- The name that comes after a place on the way to another one. -/
def entryOf? (place other : Place) : Option String :=
  if place.isPrefixOf other then (other.drop place.length).head? else none

/-- The names of what lies in the directory at a place. -/
def entries (tree : FileTree) (place : Place) : List String :=
  ((tree.files.map (·.1) ++ tree.directories ++ [tree.location]).filterMap
    (entryOf? place)).eraseDups

end FileTree
end ComposeLint
