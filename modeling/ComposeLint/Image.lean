import ComposeLint.Substitution
import ComposeLint.Text.Blank

/-!
# Image references

An image is named as `[registry/]repository[:tag][@digest]`. `Image.parse` takes a text apart
and `Image.written` puts the parts together again. A separator inside a `${…}` group belongs
to the substitution and takes nothing apart.
-/

namespace ComposeLint

/-- An image reference and the text it was written as. -/
structure Image where
  raw : String
  /-- The host that serves the image, when the text names one. -/
  registry : Option String
  repository : String
  /-- The tag; `latest` when none is written. -/
  tag : String
  digest : Option String
  deriving DecidableEq, Repr

namespace Image

/-- The tag of an image that names none. -/
def defaultTag : String := "latest"

/-- Whether a first path segment is a host and no namespace: it has a point or a colon, or is
`localhost`. -/
def isHost (segment : List Char) : Bool :=
  segment.contains '.' || segment.contains ':' || segment == "localhost".toList

/-- The text before the digest, and the digest. -/
def splitDigest (text : List Char) : List Char × Option (List Char) :=
  match Substitution.cutFirst? '@' text with
  | some (name, digest) => (name, some digest)
  | none => (text, none)

/-- The registry, and the text after it. -/
def splitRegistry (name : List Char) : Option (List Char) × List Char :=
  match Substitution.cutFirst? '/' name with
  | some (first, rest) => if isHost first then (some first, rest) else (none, name)
  | none => (none, name)

/-- The repository, and the tag. A colon before the last slash begins no tag. -/
def splitTag (path : List Char) : List Char × Option (List Char) :=
  match Substitution.cutLast? ':' path with
  | some (repository, tag) =>
    if (Text.cutFirst? (Substitution.isCut '/') (Substitution.mark 0 tag)).isNone then
      (repository, some tag)
    else (path, none)
  | none => (path, none)

/-- The text of an optional part, unless it is empty. -/
def nonempty? (part : Option (List Char)) : Option String :=
  match part with
  | some (c :: cs) => some (String.ofList (c :: cs))
  | _ => none

/-- Takes an image reference apart. -/
def parse (raw : String) : Image :=
  let (name, digest) := splitDigest (Text.trim raw.toList)
  let (registry, path) := splitRegistry name
  let (repository, tag) := splitTag path
  { raw
    registry := registry.map String.ofList
    repository := String.ofList repository
    tag := (nonempty? tag).getD defaultTag
    digest := nonempty? digest }

/-- The full form `[registry/]repository:tag[@digest]`. -/
def written (image : Image) : String :=
  (match image.registry with | some host => host ++ "/" | none => "") ++
    image.repository ++ ":" ++ image.tag ++
    (match image.digest with | some digest => "@" ++ digest | none => "")

end Image
end ComposeLint
