import ComposeLint.Cause
import ComposeLint.Report.Text
import ComposeLint.Text.Case

/-!
# Troubleshooting

What is told when a run ends with a failure: the message, the guidance that came with it, the
steps for the topic that the message is about, and general steps. The topic is guessed from
words in the message; of several, the first in the order of `Topic` counts.
-/

namespace ComposeLint

/-- What a failure may be about. -/
inductive Topic where
  | profile | notFound | permission
  deriving DecidableEq, Repr

namespace Topic

/-- The topics in the order in which they are considered, with the words that betray them. -/
def words : List (Topic × List String) :=
  [(profile, ["profile"]), (notFound, ["enoent", "not found"]),
    (permission, ["permission", "eacces"])]

/-- The topic of a message. -/
def of? (message : String) : Option Topic :=
  let message := Text.lowered message
  (words.find? fun entry => entry.2.any fun word => Text.contains message word).map Prod.fst

/-- The heading of the steps for a topic. -/
def title : Topic → String
  | profile => "💡 Policy profile issue:"
  | notFound => "💡 File not found:"
  | permission => "💡 Permission issue detected:"

/-- The steps for a topic. -/
def steps : Topic → List String
  | profile =>
    ["List built-in profiles: compose-audit --list-profiles",
      "List rule ids usable in exemptRules: compose-audit --list-rules",
      "Allowed profile keys: name, description, failOn, exemptRules, exemptKeywords"]
  | notFound =>
    ["Check the path relative to --cwd",
      "Omit paths to discover docker-compose*.yml and compose.y(a)ml files"]
  | permission =>
    ["Check file/directory permissions: ls -la",
      "Write the report elsewhere with --report-file <path>, or skip it with --no-report-file"]

/-- The section about a topic. -/
def helpSection (topic : Topic) : List String :=
  "" :: topic.title :: topic.steps.map ("  • " ++ ·)

end Topic

namespace Cause

/-- The lines of the guidance of a failure. -/
def guidanceLines (cause : Cause) : List String :=
  let line (label : String) (part : Option String) : List String :=
    match Guidance.nonempty? part with
    | some text => ["  " ++ label ++ ": " ++ text]
    | none => []
  match cause.guidance? with
  | some guidance => line "Hint" guidance.hint ++ line "Resolution" guidance.resolution
  | none => []

/-- Steps that help with any failure. -/
def generalSteps : List String :=
  ["Enable debug logging: --log-level debug",
    "Validate a manifest: docker compose -f <file> config"]

/-- The parts of what is told about a failure, each on a line of its own. -/
def troubleshootingParts (cause : Cause) : List String :=
  ("🔍 Error: " ++ cause.message) :: cause.guidanceLines ++
    ((Topic.of? cause.message).map Topic.helpSection).getD [] ++
    "" :: "🛠️ General troubleshooting steps:" ::
      (Report.numbered generalSteps).map ("  " ++ ·)

/-- What is told about a failure. -/
def troubleshooting (cause : Cause) : String := Text.joined "\n" cause.troubleshootingParts

end Cause
end ComposeLint
