import ComposeLint.Report

/-!
# The report as text

A text report is a list of parts, each on a line of its own: a banner with the totals, a line
for every severity that occurs, the findings under a heading for each such severity, and
recommendations. A part may hold line breaks of its own, when a message does; so statements
about a report speak of its parts.
-/

namespace ComposeLint.Report

/-- A line of `width` times the same character. -/
def rule (c : Char) (width : Nat) : String := String.ofList (List.replicate width c)

/-- The width of the banner. -/
def bannerWidth : Nat := 60

/-- The width of the rule under the recommendations. -/
def sectionWidth : Nat := 30

/-- What to do about findings. -/
def recommendations : List String :=
  ["Address HIGH and MEDIUM severity findings immediately",
    "Review volume mounts for unnecessary host access",
    "Use specific image tags instead of 'latest'",
    "Implement proper user configurations",
    "Add security hardening options like 'no-new-privileges'",
    "Consider using secrets management for sensitive data"]

/-- Items with their numbers, from 1. -/
def numbered (items : List String) : List String :=
  items.zipIdx.map fun (item, i) => toString (i + 1) ++ ". " ++ item

/-- The banner and the totals. -/
def header (report : Report) : List String :=
  [rule '=' bannerWidth, "SECURITY AUDIT REPORT", rule '=' bannerWidth,
    "Files scanned: " ++ toString report.filesScanned,
    "Total findings: " ++ toString report.findings.length, "", "Findings by severity:"]

/-- The line that counts one severity. -/
def countLine (report : Report) (severity : Severity) : String :=
  "  " ++ severity.sign ++ " " ++ severity.name ++ ": " ++ toString (report.counts.count severity)

/-- A line for each severity that occurs. -/
def countLines (report : Report) : List String :=
  (Severity.all.filter fun severity => 0 < report.counts.count severity).map report.countLine

/-- The heading of the findings of one severity. -/
def heading (severity : Severity) : String := severity.name ++ " SEVERITY:"

/-- The line of one finding, with its file unless that has no name. -/
def bullet (finding : Finding) : String :=
  "  • " ++ finding.message ++
    (if finding.sourceFile.isEmpty then "" else " (" ++ finding.sourceFile ++ ")")

/-- The findings of one severity under their heading; nothing when there are none. -/
def group (report : Report) (severity : Severity) : List String :=
  match report.findings.filter (·.severity = severity) with
  | [] => []
  | findings => "" :: heading severity :: findings.map bullet

/-- The findings by severity. -/
def details (report : Report) : List String :=
  "" :: "Detailed findings:" :: rule '-' bannerWidth :: Severity.all.flatMap report.group

/-- The recommendations under their heading. -/
def advice : List String :=
  "" :: "Recommendations:" :: rule '-' sectionWidth :: numbered recommendations

/-- The parts of the text report. -/
def parts (report : Report) : List String :=
  report.header ++ report.countLines ++
    (if report.findings.isEmpty then ["", "🎉 No security issues found!"]
     else report.details ++ advice)

/-- The text report. -/
def text (report : Report) : String := Text.joined "\n" report.parts

end ComposeLint.Report
