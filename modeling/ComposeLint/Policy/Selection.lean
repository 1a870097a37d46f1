import ComposeLint.Cause
import ComposeLint.FileTree
import ComposeLint.Manifest.Parsing
import ComposeLint.Policy.Profile

/-!
# Selecting the profile of a run

A profile comes from a file, or by its name from the built-in ones; a file that is named wins.
`Profile.load` reads a profile from a file, and `Profile.select` also refuses a profile that
exempts a rule nobody knows, because that is most likely a misspelt one.
-/

namespace ComposeLint

/-- Why no profile can be used. -/
inductive ProfileFault where
  | unreadable (path : String) (fault : FileFault)
  /-- The file could not be loaded as a tree; the text is the loader's. -/
  | notLoaded (path text : String)
  | wrongShape (path : String) (issues : List Issue)
  | unknownName (name : String)
  | unknownRules (name : String) (ids : List String)
  deriving Repr

namespace ProfileFault

/-- The wording of a fault. -/
def message : ProfileFault → String
  | unreadable path fault => "Cannot read policy profile " ++ path ++ ": " ++ fault.message
  | notLoaded path text => "Invalid policy profile " ++ path ++ ": " ++ text
  | wrongShape path issues =>
    "Invalid policy profile " ++ path ++ ": " ++ Issue.listText issues
  | unknownName name => "Unknown policy profile: " ++ name
  | unknownRules name ids =>
    "Policy profile '" ++ name ++ "' exempts unknown rules: " ++ Text.joined ", " ids

/-- The advice that goes with a fault. -/
def guidance : ProfileFault → Guidance
  | unreadable path _ =>
    .of "Policy profile file is not readable" (some "Check that the path exists and is a file")
      (some "Pass an existing file with --profile-file") (some (.mapping [("path", .text path)]))
  | notLoaded path _ =>
    .of "Policy profile is not valid YAML or JSON" none
      (some "Fix the syntax of the profile file") (some (.mapping [("path", .text path)]))
  | wrongShape path _ =>
    .of "Policy profile does not match the expected structure"
      (some ("Allowed keys: " ++ Text.joined ", " Profile.keys))
      (some "Fix the listed fields in the profile file") (some (.mapping [("path", .text path)]))
  | unknownName _ =>
    .of "The requested profile is not built in"
      (some ("Available profiles: " ++ Text.joined ", " (Profile.builtIn.map (·.name))))
      (some "Choose a built-in profile or pass --profile-file") none
  | unknownRules _ ids =>
    .of "exemptRules must name registered rules"
      (some "Run compose-audit --list-rules to see valid ids")
      (some "Remove or correct the unknown rule ids") (some (.mapping [("unknown", .texts ids)]))

/-- A fault as a failure. -/
def failure (fault : ProfileFault) : Failure :=
  { message := fault.message, guidance := some fault.guidance }

/-- A fault as the cause that ends a run. -/
def cause (fault : ProfileFault) : Cause := .policy fault.message (some fault.guidance)

end ProfileFault

namespace Profile

/-- Reads a profile from the file of a path. -/
def load (loadTree : TreeLoader) (tree : FileTree) (path : String) : Except ProfileFault Profile :=
  match tree.read path with
  | .error fault => .error (.unreadable path fault)
  | .ok content =>
    match loadTree path content with
    | .error text => .error (.notLoaded path text)
    | .ok found =>
      match check found with
      | .valid profile => .ok profile
      | .flawed issues => .error (.wrongShape path issues)
      | .mismatched issues => .error (.wrongShape path issues)

/-- The profile of a file, or else the built-in one of a name, or else the default. An empty path is
no file. -/
def pick (loadTree : TreeLoader) (tree : FileTree) (name file : Option String) :
    Except ProfileFault Profile :=
  match file.filter (· != "") with
  | some path => load loadTree tree path
  | none =>
    let name := name.getD defaultName
    match find? name with
    | some profile => .ok profile
    | none => .error (.unknownName name)

/-- **Selects the profile of a run.** Every rule that it exempts has to be a known one. -/
def select (loadTree : TreeLoader) (tree : FileTree) (knownRules : List String)
    (name file : Option String) : Except ProfileFault Profile := do
  let profile ← pick loadTree tree name file
  match profile.exemptRules.filter fun id => !knownRules.contains id with
  | [] => .ok profile
  | unknown => .error (.unknownRules profile.name unknown)

end Profile
end ComposeLint
