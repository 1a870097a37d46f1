import ComposeLint.Policy.Profile
import ComposeLint.Rule.Catalog

/-!
# Listings

The texts that tell which rules and which profiles there are.
-/

namespace ComposeLint.Listing

/-- What is told about a rule. -/
def ruleParts (rule : Rule) : List String :=
  ["  " ++ rule.id ++ "  [" ++ rule.category ++ "]", "      " ++ rule.description,
    "      Fix: " ++ rule.remediation]

/-- The listing of all rules. -/
def rules : String :=
  Text.joined "\n" ("Registered rules:" :: "" :: Rule.allRules.flatMap ruleParts)

/-- A line that lists names, unless there are none. -/
def namesLine (label : String) (names : List String) : List String :=
  if names.isEmpty then [] else ["      " ++ label ++ ": " ++ Text.joined ", " names]

/-- What is told about a profile. -/
def profileParts (profile : Profile) : List String :=
  let severities := Text.joined ", " (profile.failOn.map Severity.name)
  let description :=
    match profile.description.filter (· != "") with
    | some text => ["      " ++ text]
    | none => []
  ("  " ++ profile.name ++ "  (fails on " ++ severities ++ ")") :: description ++
    namesLine "Exempt rules" profile.exemptRules ++
    namesLine "Exempt keywords" profile.exemptKeywords

/-- The listing of the built-in profiles. -/
def profiles : String :=
  Text.joined "\n"
    ("Built-in policy profiles:" :: "" :: Profile.builtIn.flatMap profileParts)

end ComposeLint.Listing
