import ComposeLint.Discovery.Ignored

/-!
# Searching a tree

A pattern is searched for from a place on. Names at its start lead to another place, wherever it is;
from there on the entries of directories are compared with the parts of the pattern, one part for
each directory, and `**` for any number of them. An entry may spell a name in another way, while the
names that lead somewhere are taken as they are. Only files are found. A search fails when the
directory that it starts with cannot be asked for its entries.
-/

namespace ComposeLint.Discovery

/-- What a search works with. -/
structure Search where
  tree : FileTree
  /-- Where patterns start that do not start from the root. -/
  origin : Place
  ignored : List Ignored

namespace Search

/-- A place, if it is a file that is not ignored. -/
def hit (search : Search) (place : Place) : List Place :=
  if (search.tree.text? place).isSome && !isIgnored search.ignored search.origin place then [place]
  else []

/-- The place that names at the start of a pattern lead to, and what is left of the pattern. The
last part is always left. -/
def advanced : Place → List Part → Place × List Part
  | place, .name name :: part :: rest => advanced (FileTree.advance place [name]) (part :: rest)
  | place, parts => (place, parts)

/-- Whether a part is a name that leads nowhere new. -/
def isStill : Part → Bool
  | .name name => name == "" || isStep name
  | _ => false

mutual

/-- What a pattern finds from a place on. -/
def visit (search : Search) : Nat → Place → List Part → List Place
  | 0, _, _ => []
  | fuel + 1, target, parts =>
    if isClosed search.ignored search.origin target then []
    else
      let (place, left) := advanced target parts
      match left with
      | [] => []
      | [.name name] =>
        if isStill (.name name) then [] else search.hit (FileTree.advance place [name])
      | .anyDepth :: rest =>
        let here := if rest.isEmpty then search.hit place else []
        let above :=
          match rest with
          | .name ".." :: part :: more => list search fuel (place.dropLast) (part :: more)
          | _ => []
        here ++ above ++ list search fuel place left
      | _ => list search fuel place left

/-- What a pattern finds among the entries of a place. -/
def list (search : Search) : Nat → Place → List Part → List Place
  | 0, _, _ => []
  | fuel + 1, place, parts =>
    let entries := search.tree.entries place
    let compared (part : Part) (rest : List Part) : List Place :=
      entries.flatMap fun name =>
        let entry := place ++ [name]
        if !part.finds name then []
        else if rest.isEmpty then search.hit entry
        else if search.tree.isDirectory entry then visit search fuel entry rest
        else []
    match parts with
    | [] => []
    | .anyDepth :: rest =>
      let deeper :=
        entries.flatMap fun name =>
          let entry := place ++ [name]
          if isHidden name then []
          else
            (if rest.isEmpty then search.hit entry else []) ++
              if search.tree.isDirectory entry then visit search fuel entry parts else []
      let next :=
        match rest with
        | [] => []
        | .name ".." :: _ => if entries.isEmpty then [] else visit search fuel place rest
        | part :: more => if isStill part then [] else compared part more
      deeper ++ next
    | part :: rest => compared part rest

end

/-- The number of steps that a search takes at most: for each part, as many directories as lie in
each other. -/
def steps (search : Search) (parts : List Part) : Nat :=
  let places := search.origin :: search.tree.files.map (·.1) ++ search.tree.directories
  2 * (parts.length + 1) * ((places.map List.length).foldl max 0 + parts.length + 2)

/-- Whether there may be anything at the place where patterns start. Nothing is known of a place
that cannot be asked for. -/
def hasOrigin (search : Search) : Bool :=
  (search.tree.text? search.origin).isSome || search.tree.isDirectory search.origin ||
    match search.tree.follow (FileTree.pathOf search.origin) with
    | .error (.tooLong _) | .error (.nullCharacter _) => true
    | _ => false

/-- The directory that is read first for a pattern, unless the pattern is a path of names. -/
def firstRead? (search : Search) (pattern : Pattern) : Option Place :=
  let (start, parts) :=
    if pattern.isAbsolute then ([], pattern.parts.tail) else (search.origin, pattern.parts)
  if isClosed search.ignored search.origin start then none
  else
    match advanced start parts with
    | (_, []) => none
    | (_, [.name _]) => none
    | (place, _) => some place

/-- What is wrong with the directories that are read first. One that is missing has no entries, but
one with a null character in its path cannot be asked for its entries, and the search fails. -/
def fault? (search : Search) (patterns : List Pattern) : Option FileFault :=
  (patterns.filterMap search.firstRead?).findSome? fun place =>
    FileTree.nullFault? (FileTree.pathOf place)

/-- **The paths that a pattern finds.** What a pattern finds that starts from the root is shown from
the root. -/
def paths (search : Search) (pattern : Pattern) : List String :=
  let steps := search.steps pattern.parts
  if pattern.isAbsolute then
    let parts := pattern.parts.tail
    (search.visit steps [] parts).map FileTree.pathOf
  else if search.hasOrigin then
    (search.visit steps search.origin pattern.parts).map fun place =>
      Text.joined "/" (shownNames search.origin place)
  else []

end Search
end ComposeLint.Discovery
