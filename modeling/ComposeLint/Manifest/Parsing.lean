import ComposeLint.Manifest.Reading
import ComposeLint.Yaml.Stream

/-!
# From a text to a document

A manifest is first loaded as a tree, and the tree is then read as a document. Either can fail.
How texts are loaded is a parameter, `TreeLoader`, so that nothing here depends on the format of
the text; `Yaml.load` is the one that is used.
-/

namespace ComposeLint

/-- Loads a text as a tree. The path is used in the text of an error; an empty text has no tree. -/
abbrev TreeLoader := (path content : String) → Except String (Option Tree)

/-- Why a text is no manifest. -/
inductive ParseFault where
  /-- It could not be loaded as a tree; the text is the loader's. -/
  | notLoaded (text : String)
  | notManifest (fault : ManifestFault)
  deriving Repr

namespace ParseFault

/-- The wording of a fault. -/
def message : ParseFault → String
  | notLoaded text => text
  | notManifest fault => fault.message

/-- The likely cause of a fault. -/
def hint : ParseFault → String
  | notLoaded _ | notManifest (.circularPort _) => "The file is not valid YAML"
  | notManifest _ => "The file parsed as YAML but is not a valid Compose manifest"

/-- A fault in a file as a failure. -/
def failure (fault : ParseFault) (path : String) : Failure :=
  { message := fault.message
    guidance := some <| .of ("Failed to parse " ++ path) (some fault.hint)
      (some ("Validate the file with: docker compose -f " ++ path ++ " config"))
      (some (.mapping [("path", .text path)])) }

end ParseFault

/-- **Parses a manifest.** -/
def Document.parse (load : TreeLoader) (path content : String) : Except ParseFault Document :=
  match load path content with
  | .error text => .error (.notLoaded text)
  | .ok tree =>
    match Document.ofTree path tree with
    | .error fault => .error (.notManifest fault)
    | .ok document => .ok document

end ComposeLint
