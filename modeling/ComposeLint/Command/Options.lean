import ComposeLint.Guidance
import ComposeLint.Log
import ComposeLint.Shape.Check

/-!
# Options of a run

Options come as data, whose keys are checked by `Options.check`. Unknown keys have no effect.
-/

namespace ComposeLint

/-- How a report is shown. -/
inductive Format where
  | text | json
  deriving DecidableEq, Repr

namespace Format

/-- The name of a format. -/
def name : Format → String
  | text => "text"
  | json => "json"

/-- The formats by their names. -/
def names : List (String × Format) := [text, json].map fun format => (format.name, format)

end Format

/-- Where a report is written to. -/
inductive ReportTarget where
  | file (path : String)
  | nowhere
  deriving DecidableEq, Repr

/-- The options of a run. -/
structure Options where
  paths : List String := []
  cwd : Option String := none
  profile : Option String := none
  profileFile : Option String := none
  format : Format := .text
  reportTarget : Option ReportTarget := none
  bestPractices : Option Bool := none
  trustedRegistries : Option (List String) := none
  logLevel : Option LogLevel := none
  listRules : Option Bool := none
  listProfiles : Option Bool := none
  deriving DecidableEq, Repr

namespace Options

/-- A report target: a path, or `false` for nowhere. -/
def reportTargetCheck : Check ReportTarget :=
  Check.either
    [Check.mapped .file Check.text,
      fun
        | some (.bool false) => .valid .nowhere
        | _ => .mismatched []]

/-- The options of some entries. -/
def ofEntries (entries : List (String × Tree)) : Checked Options :=
  (fun paths cwd profile profileFile format reportTarget bestPractices trustedRegistries logLevel
      listRules listProfiles =>
      { paths, cwd, profile, profileFile, format, reportTarget, bestPractices, trustedRegistries
        logLevel, listRules, listProfiles : Options }) <$>
    Check.field entries "paths" (Check.withDefault [] (Check.list Check.text)) <*>
    Check.field entries "cwd" (Check.optional Check.text) <*>
    Check.field entries "profile" (Check.optional Check.text) <*>
    Check.field entries "profileFile" (Check.optional Check.text) <*>
    Check.field entries "format" (Check.withDefault .text (Check.oneOf Format.names)) <*>
    Check.field entries "reportFile" (Check.optional reportTargetCheck) <*>
    Check.field entries "bestPractices" (Check.optional Check.flag) <*>
    Check.field entries "trustedRegistry" (Check.optional (Check.list Check.text)) <*>
    Check.field entries "logLevel" (Check.optional (Check.oneOf LogLevel.names)) <*>
    Check.field entries "listRules" (Check.optional Check.flag) <*>
    Check.field entries "listProfiles" (Check.optional Check.flag)

/-- **Reads options.** -/
def check : Check Options := Check.object ofEntries

/-- The line about an issue. -/
def issueText (issue : Issue) : String := "--" ++ issue.pathText ++ ": " ++ issue.complaint.message

/-- The text about options with issues. -/
def refusal (issues : List Issue) : String :=
  "Invalid options: " ++ Text.joined "; " (issues.map issueText)

/-- Options that a command line gives, with its paths. -/
def parse (paths : Tree) (raw : Tree) : Except Failure Options :=
  let entries := (raw.entries?.getD []).filter (·.1 != "paths") ++ [("paths", paths)]
  match ofEntries entries with
  | .valid options => .ok options
  | failed =>
    .error
      { message := refusal failed.issues
        guidance := some (.of "Command line options are invalid" none
          (some "Run compose-audit --help for usage information") none) }

end Options
end ComposeLint
