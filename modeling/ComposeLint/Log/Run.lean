import ComposeLint.Cause
import ComposeLint.Log
import ComposeLint.Policy.Decision

/-!
# The records of a run

A run is logged by three records of fixed wording: one when it starts, and one when it is
completed or when it fails.
-/

namespace ComposeLint

/-- What is known when a run starts. -/
structure RunInfo where
  version : String
  workingDirectory : String
  profile : String
  files : Nat
  rules : Nat
  /-- Whether the files were searched for and not named. -/
  isDiscovered : Bool
  deriving DecidableEq, Repr

namespace LogRecord

/-- The record of the start of a run. -/
def runStarted (run : RunInfo) : LogRecord :=
  { level := .info
    fields :=
      [("version", .text run.version), ("cwd", .text run.workingDirectory),
        ("profile", .text run.profile), ("files", .nat run.files), ("rules", .nat run.rules),
        ("discovered", .bool run.isDiscovered)]
    message := "Starting compose security audit" }

/-- The record of a run that came to a decision. -/
def runCompleted (report : Report) (decision : Decision) : LogRecord :=
  { level := .info
    fields :=
      [("filesScanned", .nat report.filesScanned), ("findings", .nat report.findings.length),
        ("summary", report.counts.tree), ("outcome", .text decision.outcome),
        ("failing", .nat decision.failing.length), ("exempted", .nat decision.exempted.length)]
    message := "Completed compose security audit" }

/-- The record of a run that failed. -/
def runFailed (reason : String) (context : List (String × Tree)) : LogRecord :=
  { level := .error
    fields := context ++ [("error", .text reason)]
    message := "Compose security audit failed" }

end LogRecord
end ComposeLint
