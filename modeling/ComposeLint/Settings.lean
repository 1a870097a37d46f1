import ComposeLint.Log
import ComposeLint.Shape.Check

/-!
# Settings from the environment

Variables of the environment give defaults for a run. A variable without text counts as unset,
and one with a text that it cannot have is refused.
-/

namespace ComposeLint

/-- Where a run takes place. -/
inductive Stage where
  | development | production | test
  deriving DecidableEq, Repr

namespace Stage

/-- The name of a stage. -/
def name : Stage → String
  | development => "development"
  | production => "production"
  | test => "test"

/-- The stages by their names. -/
def names : List (String × Stage) :=
  [development, production, test].map fun stage => (stage.name, stage)

end Stage

/-- What the environment says about a run. -/
structure Settings where
  logLevel : Option LogLevel := none
  profile : Option String := none
  profileFile : Option String := none
  reportFile : Option String := none
  stage : Stage := .production
  deriving DecidableEq, Repr

/-- The variables of an environment. -/
abbrev Variables := List (String × String)

namespace Settings

/-- A check that takes a text without characters as missing. -/
def unlessEmpty {α : Type} (check : Check α) : Check α
  | some (.text "") => check none
  | found => check found

/-- The settings of some entries. -/
def ofEntries (entries : List (String × Tree)) : Checked Settings :=
  (fun logLevel profile profileFile reportFile stage =>
      { logLevel, profile, profileFile, reportFile, stage : Settings }) <$>
    Check.field entries "LOG_LEVEL"
      (unlessEmpty (Check.optional (Check.oneOf LogLevel.names))) <*>
    Check.field entries "AUDIT_PROFILE" (unlessEmpty (Check.optional Check.text)) <*>
    Check.field entries "AUDIT_PROFILE_FILE" (unlessEmpty (Check.optional Check.text)) <*>
    Check.field entries "AUDIT_REPORT_FILE" (unlessEmpty (Check.optional Check.text)) <*>
    Check.field entries "NODE_ENV"
      (unlessEmpty (Check.withDefault .production (Check.oneOf Stage.names)))

/-- Reads settings. -/
def check : Check Settings := Check.object ofEntries

/-- **The settings of an environment.** -/
def ofVariables (environment : Variables) : Checked Settings :=
  check (some (.mapping (environment.map fun v => (v.1, .text v.2))))

/-- The least level of the log when no option sets one. -/
def effectiveLogLevel (settings : Settings) : LogLevel :=
  settings.logLevel.getD (if settings.stage = .development then .debug else .warn)

/-- The text that lists issues one below the other, as data. -/
def issuesText (issues : List Issue) : String := (Tree.list (issues.map Issue.tree)).prettyJson

end Settings
end ComposeLint
