import ComposeLint.Discovery.Walk
import ComposeLint.Log
import ComposeLint.Text.Units

/-!
# Discovery of manifests

When a run names no files, those below its directory are taken that are named like manifests.
Directories of installed packages and of version control are not searched.
-/

namespace ComposeLint.Discovery

/-- The patterns of manifests. -/
def manifestPatterns : List String :=
  ["docker-compose.yml", "docker-compose.yaml", "compose.yml", "compose.yaml",
    "**/docker-compose*.yml", "**/docker-compose*.yaml"]

/-- The patterns of what is not searched. -/
def ignoredPatterns : List String := ["**/node_modules/**", "**/.git/**"]

/-- Why a search fails. -/
inductive SearchFault where
  | pattern (fault : PatternFault)
  /-- A directory to start with cannot be asked for its entries. -/
  | directory (fault : FileFault)
  deriving DecidableEq, Repr

/-- The wording of a fault. -/
def SearchFault.message : SearchFault → String
  | pattern fault => fault.message
  | directory fault => fault.message

/-- The patterns of some texts, and what is ignored by others. Faults of patterns come before those
of what is ignored. -/
def readPatterns (patterns ignored : List String) :
    Except PatternFault (List Pattern × List Ignored) := do
  let patterns := (← patterns.mapM (Pattern.ofText false)).flatten
  let ignored := (← ignored.mapM Ignored.ofText).flatten
  .ok (patterns, ignored)

/-- **The files that patterns find from a place on**, as paths from there, each once and in the
order of their units. Faults of patterns come before those of directories. -/
def find (tree : FileTree) (place : Place) (patterns ignored : List String) :
    Except SearchFault (List String) := do
  let (patterns, ignored) ← (readPatterns patterns ignored).mapError .pattern
  let search : Search := { tree, origin := place, ignored }
  match search.fault? patterns with
  | some fault => .error (.directory fault)
  | none => .ok ((patterns.flatMap search.paths).eraseDups.mergeSort Text.unitsLe)

/-- The manifests below a place. -/
def manifests (tree : FileTree) (place : Place) : Except SearchFault (List String) :=
  find tree place manifestPatterns ignoredPatterns

/-- The record of a search for manifests. -/
def record (place : Place) (found : List String) : LogRecord :=
  { level := .debug
    fields :=
      [("cwd", .text (FileTree.pathOf place)), ("patterns", .texts manifestPatterns),
        ("count", .nat found.length)]
    message := "Discovered manifests" }

end ComposeLint.Discovery
