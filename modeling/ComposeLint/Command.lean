import ComposeLint.Audit
import ComposeLint.Command.Listing
import ComposeLint.Command.Options
import ComposeLint.Discovery
import ComposeLint.Log.Run
import ComposeLint.Policy.Selection
import ComposeLint.Report.Text
import ComposeLint.Settings
import ComposeLint.Troubleshooting

/-!
# The command

A run of the command is a function of its options, its environment and the files it can see.
`Command.plan` decides everything that does not depend on the files to be audited: the run is
refused, or it only lists something, or it audits with a profile. `Command.run` carries the
plan out. What comes of it is an `Outcome`, in which the files are the same as before but for
the report. The one thing that leaves a run without an outcome is a search for manifests that fails.
-/

namespace ComposeLint

/-- How a run ends. -/
inductive ExitStatus where
  | pass
  /-- The policy failed. -/
  | fail
  /-- The run could not be configured, or its report could not be written. -/
  | configurationError
  deriving DecidableEq, Repr

/-- The number of a status. -/
def ExitStatus.code : ExitStatus → Nat
  | pass => 0
  | fail => 1
  | configurationError => 2

/-- What comes of a run. -/
structure Outcome where
  status : ExitStatus
  /-- The texts that are shown. -/
  out : List String := []
  /-- The texts that are shown as errors. -/
  err : List String := []
  /-- The files afterwards. -/
  files : FileTree
  records : List LogRecord := []

namespace Command

/-- What a run works with. -/
structure Surroundings where
  load : TreeLoader
  /-- The version that the log tells. -/
  version : String := "unknown"
  environment : Variables := []
  files : FileTree

/-! ## Planning -/

/-- An audit that is decided on. -/
structure AuditPlan where
  options : Options
  settings : Settings
  profile : Profile

/-- What is to be done. -/
inductive Plan where
  | refuseOptions (issues : List Issue)
  | refuseVariables (issues : List Issue)
  | refuseProfile (fault : ProfileFault)
  | list (text : String)
  | audit (plan : AuditPlan)

/-- The profile that options and settings select. An option wins over a variable of the same
name. -/
def selectProfile (around : Surroundings) (options : Options) (settings : Settings) :
    Except ProfileFault Profile :=
  Profile.select around.load around.files (Rule.ids Rule.allRules)
    (options.profile.or settings.profile) (options.profileFile.or settings.profileFile)

/-- What valid options ask for. -/
def planOptions (around : Surroundings) (options : Options) : Plan :=
  match Settings.ofVariables around.environment with
  | .valid settings =>
    if options.listRules = some true then .list Listing.rules
    else if options.listProfiles = some true then .list Listing.profiles
    else
      match selectProfile around options settings with
      | .ok profile => .audit { options, settings, profile }
      | .error fault => .refuseProfile fault
  | failed => .refuseVariables failed.issues

/-- **What options ask for.** -/
def plan (around : Surroundings) (options : Option Tree) : Plan :=
  match Options.check options with
  | .valid options => planOptions around options
  | failed => .refuseOptions failed.issues

/-! ## Auditing -/

/-- The name of the report file when nothing names one. -/
def defaultReportFile : String := "security-audit.json"

/-- The file that the report is written to. -/
def reportFile? (options : Options) (settings : Settings) : Option String :=
  match options.reportTarget with
  | some .nowhere => none
  | some (.file path) => some path
  | none => some (settings.reportFile.getD defaultReportFile)

/-- The report after its JSON text with a line end is written. -/
def writeReport (files : FileTree) (place : Place) (path : String) (report : Report) :
    Except FileFault FileTree :=
  files.write (FileTree.resolve place path) (report.json ++ "\n")

/-- An audit that is under way. -/
structure Session where
  options : Options
  place : Place
  audit : Audit
  paths : List String
  report : Report
  decision : Decision
  reportFile : Option String
  /-- What has been logged so far. -/
  records : List LogRecord

/-- The directory that a run works in. -/
def workingPlace (around : Surroundings) (options : Options) : Place :=
  FileTree.resolve around.files.location (options.cwd.getD "")

/-- The files to be audited: those that are named, or else the manifests below the working
directory. -/
def manifestPaths (around : Surroundings) (options : Options) :
    Except Discovery.SearchFault (List String) :=
  if options.paths.isEmpty then Discovery.manifests around.files (workingPlace around options)
  else .ok options.paths

/-- The audit of some files by a plan: what is found, and what the policy says. -/
def session (around : Surroundings) (plan : AuditPlan) (paths : List String) : Session :=
  let options := plan.options
  let place := workingPlace around options
  let engine := Engine.selected (options.bestPractices.getD false)
    (RuleTables.standard.trusting (options.trustedRegistries.getD []))
  let isDiscovered := options.paths.isEmpty
  let audit : Audit := { load := around.load, engine, tree := around.files, place }
  let report := audit.report paths
  let info : RunInfo :=
    { version := around.version, workingDirectory := FileTree.pathOf place
      profile := plan.profile.name, files := paths.length, rules := engine.rules.length
      isDiscovered }
  let records :=
    (if isDiscovered then [Discovery.record place paths] else []) ++
      [.runStarted info, .starting "compose-audit" [("profile", .text plan.profile.name)]] ++
      audit.records paths
  { options, place, audit, paths, report, decision := .of report plan.profile
    reportFile := reportFile? options plan.settings, records }

namespace Session

/-- The report as it is shown. -/
def shownReport (session : Session) : String :=
  match session.options.format with
  | .json => session.report.json
  | .text => session.report.text

/-- The note about the report file, which a JSON report does not have. -/
def savedNote (session : Session) : List String :=
  match session.options.format, session.reportFile with
  | .text, some path => ["\n📄 Detailed report saved to " ++ path]
  | _, _ => []

/-- The files with the report written. -/
def saved (session : Session) : Except FileFault FileTree :=
  match session.reportFile with
  | some path => writeReport session.audit.tree session.place path session.report
  | none => .ok session.audit.tree

/-- The status of a run whose report is written. -/
def status (session : Session) : ExitStatus :=
  if session.decision.passes then .pass else .fail

/-- The outcome when the report cannot be written: the report is shown, and no verdict. -/
def unsavedOutcome (session : Session) (fault : FileFault) : Outcome :=
  let path := FileTree.resolve session.place (session.reportFile.getD "")
  { status := .configurationError
    out := [session.shownReport]
    err := [(Cause.error fault.message).troubleshooting]
    files := session.audit.tree
    records := session.records ++
      [.runFailed fault.message [("reportFile", .text (FileTree.pathOf path))]] }

/-- The outcome when the report is written. A JSON report leaves the output to itself, so its
verdict is shown with the errors. -/
def savedOutcome (session : Session) (files : FileTree) : Outcome :=
  let verdict := session.decision.text
  let completed : LogRecord :=
    .completed "compose-audit" [("profile", .text session.decision.profile.name)] []
  let shown := session.shownReport :: session.savedNote
  let (out, err) :=
    match session.options.format with
    | .json => (shown, [verdict])
    | .text => (shown ++ ["\n" ++ verdict], [])
  { status := session.status, out, err, files
    records := session.records ++
      [completed, .runCompleted session.report session.decision] }

/-- The outcome of an audit. -/
def outcome (session : Session) : Outcome :=
  match session.saved with
  | .error fault => session.unsavedOutcome fault
  | .ok files => session.savedOutcome files

end Session

/-! ## Running -/

/-- The outcome of a run that is refused. -/
def refused (around : Surroundings) (text : String) (records : List LogRecord) : Outcome :=
  { status := .configurationError, err := [text], files := around.files, records }

/-- The records of a run without a profile. -/
def profileRecords (cause : Cause) : List LogRecord :=
  let code :=
    match cause.code? with
    | some code => [("code", Tree.text code)]
    | none => []
  [.runFailed cause.message code]

/-- Carries a plan out. -/
def carryOut (around : Surroundings) : Plan → Except Discovery.SearchFault Outcome
  | .refuseOptions issues => .ok (refused around ("❌ " ++ Options.refusal issues) [])
  | .refuseVariables issues =>
    .ok (refused around
      ("❌ Invalid environment configuration: " ++ Settings.issuesText issues) [])
  | .refuseProfile fault =>
    .ok (refused around fault.cause.troubleshooting (profileRecords fault.cause))
  | .list text => .ok { status := .pass, out := [text], files := around.files }
  | .audit plan =>
    (manifestPaths around plan.options).map fun paths => (session around plan paths).outcome

/-- **Runs the command.** There is no outcome when the search for manifests fails. -/
def run (around : Surroundings) (options : Option Tree) : Except Discovery.SearchFault Outcome :=
  carryOut around (plan around options)

end Command
end ComposeLint
