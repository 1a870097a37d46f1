import ComposeLint.Policy.Profile
import ComposeLint.Report
import ComposeLint.Text.Case

/-!
# Decisions

A profile divides the findings of a report: those of a severity it does not fail on do not
count, and of the others each is either failing or exempted. The run passes when nothing is
failing. `Decision.parts` words the verdict.
-/

namespace ComposeLint

namespace Profile

/-- Whether the profile accepts a finding: by its rule, or by a keyword in its message. -/
def exempts (profile : Profile) (finding : Finding) : Bool :=
  profile.exemptRules.contains finding.ruleId ||
    profile.exemptKeywords.any fun keyword =>
      Text.contains (Text.lowered finding.message) (Text.lowered keyword)

/-- Whether a finding is of a severity that fails a run. -/
def counts (profile : Profile) (finding : Finding) : Bool :=
  profile.failOn.contains finding.severity

end Profile

/-- What a profile says about a report. -/
structure Decision where
  profile : Profile
  /-- Findings that fail the run. -/
  failing : List Finding
  /-- Findings that would fail the run if the profile did not accept them. -/
  exempted : List Finding
  deriving Repr

namespace Decision

/-- **Divides the findings of a report.** -/
def of (report : Report) (profile : Profile) : Decision :=
  let counted := report.findings.filter profile.counts
  { profile
    failing := counted.filter fun finding => !profile.exempts finding
    exempted := counted.filter profile.exempts }

/-- Whether the run passes. -/
def passes (decision : Decision) : Bool := decision.failing.isEmpty

/-- The outcome in one word. -/
def outcome (decision : Decision) : String := if decision.passes then "PASS" else "FAIL"

/-- The line of a failing finding. -/
def bullet (finding : Finding) : String :=
  "  • " ++ finding.message ++ " (" ++ finding.sourceFile ++ ")"

/-- The parts of the verdict, each on a line of its own. -/
def parts (decision : Decision) : List String :=
  let severities := Text.joined ", " (decision.profile.failOn.map Severity.name)
  let policy := "Policy '" ++ decision.profile.name ++ "' "
  if decision.passes then
    ("✅ " ++ policy ++ "passed: no blocking findings at " ++ severities) ::
      (if decision.exempted.isEmpty then []
       else ["ℹ️  " ++ toString decision.exempted.length ++ " finding(s) accepted by the profile"])
  else
    ("💥 " ++ policy ++ "failed: " ++ toString decision.failing.length ++
      " blocking finding(s) at " ++ severities) :: decision.failing.map bullet

/-- The verdict. -/
def text (decision : Decision) : String := Text.joined "\n" decision.parts

end Decision
end ComposeLint
