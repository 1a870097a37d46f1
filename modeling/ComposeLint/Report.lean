import ComposeLint.Finding
import ComposeLint.Tree.Json

/-!
# Reports

Files are audited one by one; a report puts their findings together in the order of the files
and counts them by severity. `Report.tree` is the report as data, in which the counts stand
beside the findings.
-/

namespace ComposeLint

/-- The findings of one file. -/
structure FileResult where
  path : String
  findings : List Finding
  deriving DecidableEq, Repr

/-- How many findings there are of each severity. -/
structure SeverityCounts where
  high : Nat := 0
  medium : Nat := 0
  low : Nat := 0
  info : Nat := 0
  error : Nat := 0
  deriving DecidableEq, Repr

namespace SeverityCounts

/-- The count of one severity. -/
def count (counts : SeverityCounts) : Severity → Nat
  | .high => counts.high
  | .medium => counts.medium
  | .low => counts.low
  | .info => counts.info
  | .error => counts.error

/-- The counts with one more finding of a severity. -/
def more (counts : SeverityCounts) : Severity → SeverityCounts
  | .high => { counts with high := counts.high + 1 }
  | .medium => { counts with medium := counts.medium + 1 }
  | .low => { counts with low := counts.low + 1 }
  | .info => { counts with info := counts.info + 1 }
  | .error => { counts with error := counts.error + 1 }

/-- The counts of a list of findings. -/
def tally (findings : List Finding) : SeverityCounts :=
  findings.foldl (fun counts finding => counts.more finding.severity) {}

/-- The sum of all counts. -/
def total (counts : SeverityCounts) : Nat :=
  Severity.all.foldl (fun sum severity => sum + counts.count severity) 0

/-- The counts as data, by the names of the severities. -/
def tree (counts : SeverityCounts) : Tree :=
  .mapping (Severity.all.map fun severity => (severity.name, .nat (counts.count severity)))

end SeverityCounts

/-- The findings of an audit. -/
structure Report where
  findings : List Finding
  counts : SeverityCounts
  filesScanned : Nat
  deriving DecidableEq, Repr

namespace Report

/-- The report on some files. -/
def ofFiles (files : List FileResult) : Report :=
  let findings := files.flatMap (·.findings)
  { findings, counts := .tally findings, filesScanned := files.length }

/-- A finding as data. -/
def findingTree (finding : Finding) : Tree :=
  let service :=
    match finding.serviceName with
    | some name => [("service", Tree.text name)]
    | none => []
  .mapping
    ([("severity", .text finding.severity.name), ("category", .text finding.category),
      ("message", .text finding.message), ("file", .text finding.sourceFile)] ++ service ++
      [("rule", .text finding.ruleId)])

/-- The report as data. -/
def tree (report : Report) : Tree :=
  .mapping
    [("findings", .list (report.findings.map findingTree)),
      ("summary", report.counts.tree),
      ("total_files", .nat report.filesScanned),
      ("total_findings", .nat report.findings.length)]

/-- The report as JSON text. -/
def json (report : Report) : String := report.tree.prettyJson

end Report
end ComposeLint
