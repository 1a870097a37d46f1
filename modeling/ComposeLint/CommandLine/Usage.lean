import ComposeLint.CommandLine.Flag
import ComposeLint.Text.Search
import ComposeLint.Text.Units
import ComposeLint.Tree.Json

/-!
# The help

The help names the arguments and flags in one column and describes them in another. A
description that is wider than its column is broken between words.
-/

namespace ComposeLint.Usage

/-- The width that the help is printed for. -/
def width : Nat := 80

/-- The blank columns before an item, and between its two columns. -/
def gap : Nat := 2

/-- The name of the command. -/
def command : String := "compose-audit"

/-- The argument that is no flag, with its description. -/
def pathsItem : String × String :=
  ("paths", "manifest files to audit (default: discover compose files under --cwd)")

/-- The description of a flag. -/
def flagDescription (flag : Flag) : String :=
  match flag.standard with
  | some value => flag.description ++ " (default: " ++ (Tree.text value).json ++ ")"
  | none => flag.description

/-- The flags with their descriptions. -/
def flagItems : List (String × String) :=
  Flag.all.map fun flag => (flag.term, flagDescription flag)

/-- The length of a text. -/
def lengthOf (text : String) : Nat := Text.units text.toList

/-- The width of the column of names. -/
def termWidth : Nat :=
  ((pathsItem :: flagItems).map fun item => lengthOf item.1).foldl max 0

/-- How many letters of a description fit on a line. -/
def columnWidth : Nat := width - gap - termWidth - gap - 1

/-- Fills lines with words: each line takes words as long as they fit. `line` is the line that is
being filled. -/
def fill (columns : Nat) (line : String) : List String → List String
  | [] => [line]
  | word :: rest =>
    if lengthOf line + 1 + lengthOf word ≤ columns then fill columns (line ++ " " ++ word) rest
    else line :: fill columns word rest

/-- The lines of a description. -/
def wrapped (description : String) : List String :=
  match (Text.pieces ' ' description.toList).map String.ofList with
  | [] => []
  | word :: rest => fill columnWidth word rest

/-- So many blanks. -/
def blanks (count : Nat) : String := String.ofList (List.replicate count ' ')

/-- An item in two columns. -/
def itemText (item : String × String) : String :=
  let term := blanks gap ++ item.1 ++ blanks (termWidth - lengthOf item.1 + gap)
  term ++ Text.joined ("\n" ++ blanks (lengthOf term)) (wrapped item.2)

/-- What follows the flags. -/
def notes : List String :=
  ["",
    "",
    "Examples:",
    "  $ compose-audit                                   " ++
      "Audit every compose file under the current directory",
    "  $ compose-audit stacks/media/docker-compose.yml   Audit one file",
    "  $ compose-audit --profile strict --format json    " ++
      "Fail on every HIGH finding, print JSON",
    "  $ compose-audit --profile-file audit-profile.yml  Use a custom policy profile",
    "",
    "Exit codes:",
    "  0  policy passed",
    "  1  policy failed",
    "  2  configuration error",
    "",
    "Environment Variables:",
    "  LOG_LEVEL             Logging level (debug, info, warn, error)",
    "  AUDIT_PROFILE         Built-in policy profile name",
    "  AUDIT_PROFILE_FILE    Custom policy profile path",
    "  AUDIT_REPORT_FILE     JSON report file path",
    ""]

/-- The lines of the help. -/
def lines : List String :=
  ["Usage: " ++ command ++ " [options] [paths...]", "",
    "Security linter for Docker Compose manifests", "", "Arguments:", itemText pathsItem, "",
    "Options:"] ++ flagItems.map itemText ++ notes

/-- **The help**, with the line end of its last line. -/
def text : String := Text.joined "\n" lines ++ "\n"

end ComposeLint.Usage
