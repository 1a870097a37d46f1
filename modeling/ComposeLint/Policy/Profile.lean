import ComposeLint.Finding
import ComposeLint.Shape.Check

/-!
# Policy profiles

A profile says which findings fail a run: those of its severities, except for the rules and
the keywords that it exempts. Three profiles are built in, and others are read from files with
`Profile.check`, which is strict: a misspelt field is refused and not ignored.
-/

namespace ComposeLint

/-- A policy profile. -/
structure Profile where
  name : String
  description : Option String := none
  /-- The severities that fail a run. -/
  failOn : List Severity := [.high]
  /-- Ids of rules whose findings are accepted. -/
  exemptRules : List String := []
  /-- Texts that make a finding accepted when its message contains one, in any case. -/
  exemptKeywords : List String := []
  deriving DecidableEq, Repr

namespace Profile

/-- The keys of a profile. -/
def keys : List String := ["name", "description", "failOn", "exemptRules", "exemptKeywords"]

/-- The profile of some entries. -/
def ofEntries (entries : List (String × Tree)) : Checked Profile :=
  (fun name description failOn exemptRules exemptKeywords _ =>
      { name, description, failOn, exemptRules, exemptKeywords : Profile }) <$>
    Check.field entries "name" Check.nonemptyText <*>
    Check.field entries "description" (Check.optional Check.text) <*>
    Check.field entries "failOn"
      (Check.withDefault [.high] (Check.nonemptyList (Check.oneOf Severity.names))) <*>
    Check.field entries "exemptRules"
      (Check.withDefault [] (Check.list Check.nonemptyText)) <*>
    Check.field entries "exemptKeywords"
      (Check.withDefault [] (Check.list Check.nonemptyText)) <*>
    Check.onlyKeys keys entries

/-- **Reads a profile.** -/
def check : Check Profile := Check.object ofEntries

/-- A profile as data. -/
def tree (profile : Profile) : Tree :=
  let description :=
    match profile.description with
    | some text => [("description", Tree.text text)]
    | none => []
  .mapping
    (("name", .text profile.name) :: description ++
      [("failOn", .texts (profile.failOn.map Severity.name)),
        ("exemptRules", .texts profile.exemptRules),
        ("exemptKeywords", .texts profile.exemptKeywords)])

/-! ## Built-in profiles -/

/-- Accepts what is common on a private server. -/
def riskTolerant : Profile where
  name := "risk-tolerant"
  description := some
    ("Accepts privileged containers, host networking, exposed ports and socket mounts common in " ++
      "homelab setups")
  exemptRules :=
    ["privileged-mode", "privileged-command", "dangerous-mounts", "host-network", "exposed-ports"]

/-- Accepts by the wording of a message. -/
def keywordAllowlist : Profile where
  name := "keyword-allowlist"
  description := some "Exempts HIGH findings whose message mentions an accepted risk keyword"
  exemptKeywords := ["docker.sock", "host network", "port", "privileged"]

/-- Accepts nothing. -/
def strict : Profile where
  name := "strict"
  description := some "Every HIGH finding fails the run"

/-- The built-in profiles. -/
def builtIn : List Profile := [riskTolerant, keywordAllowlist, strict]

/-- The name of the profile of a run that names none. -/
def defaultName : String := riskTolerant.name

/-- The built-in profile of a name. -/
def find? (name : String) : Option Profile := builtIn.find? (·.name == name)

end Profile
end ComposeLint
