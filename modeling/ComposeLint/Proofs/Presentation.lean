import ComposeLint.Proofs.Acceptance
import ComposeLint.Proofs.ExitStatus
import ComposeLint.Proofs.FileByFile
import ComposeLint.Proofs.Gate

/-!
# How a report is shown and who judges it

The format and the profile of a run have no part in what it finds. Options are read key by key
(`Options.check_eq_valid_iff`), so that options which differ under the keys of format and profile
only ask for the same audit (`Options.eq_of_differAt`), and then the same is found (`found_congr`).
The report is written as it is, and the profile decides about nothing but the verdict and the
status: `Delivers` says what becomes of a report, whoever judges it.
-/

namespace ComposeLint

/-! ## Reading options key by key -/

namespace Options

variable {options options' : Options} {raw raw' : Option Tree}

/-- What is read of which key. -/
structure ReadFrom (options : Options) (entries : List (String × Tree)) : Prop where
  paths : Check.withDefault [] (Check.list Check.text) (entries.lookup "paths") =
    .valid options.paths
  cwd : Check.optional Check.text (entries.lookup "cwd") = .valid options.cwd
  profile : Check.optional Check.text (entries.lookup "profile") = .valid options.profile
  profileFile : Check.optional Check.text (entries.lookup "profileFile") =
    .valid options.profileFile
  format : Check.withDefault .text (Check.oneOf Format.names) (entries.lookup "format") =
    .valid options.format
  reportTarget : Check.optional reportTargetCheck (entries.lookup "reportFile") =
    .valid options.reportTarget
  bestPractices : Check.optional Check.flag (entries.lookup "bestPractices") =
    .valid options.bestPractices
  trustedRegistries : Check.optional (Check.list Check.text) (entries.lookup "trustedRegistry") =
    .valid options.trustedRegistries
  logLevel : Check.optional (Check.oneOf LogLevel.names) (entries.lookup "logLevel") =
    .valid options.logLevel
  listRules : Check.optional Check.flag (entries.lookup "listRules") = .valid options.listRules
  listProfiles : Check.optional Check.flag (entries.lookup "listProfiles") =
    .valid options.listProfiles

/-- **Options are read key by key.** -/
theorem check_eq_valid_iff : check raw = .valid options ↔
    ∃ entries, raw.bind Tree.entries? = some entries ∧ options.ReadFrom entries := by
  have hmeets : check raw = .valid options ↔
      Check.Accepts check (fun read => read = options) raw := Checked.meets_eq_iff.symm
  rw [hmeets, check, Check.accepts_object_iff]
  refine exists_congr fun entries => and_congr_right fun _ => ?_
  simp only [ofEntries, Checked.meets_seq, Checked.meets_fmap, Check.meets_field]
  constructor
  · rintro ⟨paths, hpaths, cwd, hcwd, profile, hprofile, profileFile, hprofileFile, format, hformat,
      target, htarget, practices, hpractices, registries, hregistries, level, hlevel, rules, hrules,
      profiles, hprofiles, rfl⟩
    exact ⟨hpaths, hcwd, hprofile, hprofileFile, hformat, htarget, hpractices, hregistries, hlevel,
      hrules, hprofiles⟩
  · rintro ⟨hpaths, hcwd, hprofile, hprofileFile, hformat, htarget, hpractices, hregistries, hlevel,
      hrules, hprofiles⟩
    exact ⟨_, hpaths, _, hcwd, _, hprofile, _, hprofileFile, _, hformat, _, htarget, _, hpractices,
      _, hregistries, _, hlevel, _, hrules, _, hprofiles, rfl⟩

/-- The keys that say how a report is shown and who judges it. -/
def viewKeys : List String := ["format", "profile", "profileFile"]

/-- Two sets of options that differ under some keys only. -/
def DifferAt (keys : List String) (raw raw' : Option Tree) : Prop :=
  ∃ entries entries', raw.bind Tree.entries? = some entries ∧
    raw'.bind Tree.entries? = some entries' ∧
      ∀ key ∉ keys, entries'.lookup key = entries.lookup key

/-- **Options that differ in the view only ask for the same audit.** -/
theorem eq_of_differAt (hdiffer : DifferAt viewKeys raw raw') (h : check raw = .valid options)
    (h' : check raw' = .valid options') :
    options' = { options with
      format := options'.format
      profile := options'.profile
      profileFile := options'.profileFile } := by
  obtain ⟨entries, entries', hentries, hentries', hsame⟩ := hdiffer
  obtain ⟨_, hfound, hread⟩ := check_eq_valid_iff.mp h
  obtain rfl := Option.some.inj (hfound.symm.trans hentries)
  obtain ⟨_, hfound', hread'⟩ := check_eq_valid_iff.mp h'
  obtain rfl := Option.some.inj (hfound'.symm.trans hentries')
  -- Under every other key the same value is read.
  have hvalue : ∀ {α : Type} {check : Check α} {key : String} {value value' : α},
      key ∉ viewKeys → check (List.lookup key _) = .valid value →
        check (List.lookup key _) = .valid value' → value' = value :=
    fun hkey hcheck hcheck' => Checked.valid.inj
      (hcheck'.symm.trans ((congrArg _ (hsame _ hkey)).trans hcheck))
  obtain ⟨_, _, _, _, _, _, _, _, _, _, _⟩ := options
  obtain ⟨_, _, _, _, _, _, _, _, _, _, _⟩ := options'
  rw [Options.mk.injEq]
  exact ⟨hvalue (by decide) hread.paths hread'.paths, hvalue (by decide) hread.cwd hread'.cwd, rfl,
    rfl, rfl, hvalue (by decide) hread.reportTarget hread'.reportTarget,
    hvalue (by decide) hread.bestPractices hread'.bestPractices,
    hvalue (by decide) hread.trustedRegistries hread'.trustedRegistries,
    hvalue (by decide) hread.logLevel hread'.logLevel,
    hvalue (by decide) hread.listRules hread'.listRules,
    hvalue (by decide) hread.listProfiles hread'.listProfiles⟩

end Options

/-! ## One report -/

namespace Command

variable {around : Surroundings} {raw raw' : Option Tree} {options options' : Options}
variable {settings : Settings} {profile profile' : Profile} {path : String}

/-- What is found in some files. Neither the format nor the profile is asked for. -/
def found (around : Surroundings) (options : Options) (paths : List String) : Report :=
  Audit.report
    { load := around.load
      engine := .selected (options.bestPractices.getD false)
        (RuleTables.standard.trusting (options.trustedRegistries.getD []))
      tree := around.files
      place := workingPlace around options }
    paths

/-- **An audit reports what is found.** -/
theorem report_session (around : Surroundings) (plan : AuditPlan) (paths : List String) :
    (session around plan paths).report = found around plan.options paths := rfl

section SameAudit

variable (h : options' = { options with
  format := options'.format
  profile := options'.profile
  profileFile := options'.profileFile })

include h

theorem lists_congr : Lists options' ↔ Lists options := by
  rw [h]
  rfl

theorem manifestPaths_congr : manifestPaths around options' = manifestPaths around options := by
  rw [h]
  rfl

theorem reportPath?_congr :
    reportPath? around options' settings = reportPath? around options settings := by
  rw [h]
  rfl

/-- **The same is found.** -/
theorem found_congr (paths : List String) :
    found around options' paths = found around options paths := by
  rw [h]
  rfl

end SameAudit

/-- The outcome of an audit whose report is written to a path. -/
def delivery (around : Surroundings) (plan : AuditPlan) (path : String) (paths : List String) :
    Outcome :=
  (session around plan paths).savedOutcome
    (around.files.withText (FileTree.resolve [] path)
      ((found around plan.options paths).json ++ "\n"))

theorem files_delivery (around : Surroundings) (plan : AuditPlan) (path : String)
    (paths : List String) :
    (delivery around plan path paths).files =
      around.files.withText (FileTree.resolve [] path)
        ((found around plan.options paths).json ++ "\n") := rfl

/-- **A run whose report can be written delivers it.** -/
theorem run_of_writable (h : Configured around raw options settings) (hnot : ¬ Lists options)
    (hprofile : selectProfile around options settings = .ok profile)
    (hpath : reportPath? around options settings = some path)
    (hwritable : around.files.Writable path) {paths : List String}
    (hpaths : manifestPaths around options = .ok paths) :
    run around raw = .ok (delivery around ⟨options, settings, profile⟩ path paths) := by
  have hsaved := saved_of_writable ⟨options, settings, profile⟩ hpath hwritable paths
  rw [report_session] at hsaved
  rw [run_of_selected h hnot hprofile, hpaths, Except.map, Session.outcome, hsaved]
  rfl

/-- What becomes of a report. -/
structure Delivers (plan : AuditPlan) (path : String) (report : Report) (outcome : Outcome) :
    Prop where
  /-- The report file holds the whole report. -/
  file : outcome.files.text? (FileTree.resolve [] path) = some (report.json ++ "\n")
  /-- So does the only text that is shown when the report is shown as data. -/
  shown : plan.options.format = .json → outcome.out.map (· ++ "\n") = [report.json ++ "\n"]
  /-- The profile decides about the status. -/
  status : outcome.status = if (Decision.of report plan.profile).passes then .pass else .fail
  /-- What the profile accepts is still found. -/
  exempted : ∀ finding ∈ (Decision.of report plan.profile).exempted, finding ∈ report.findings
  /-- And it is still counted. -/
  counts : ∀ severity, report.counts.count severity =
    report.findings.countP fun finding => finding.severity = severity

theorem delivers_delivery (around : Surroundings) (plan : AuditPlan) (path : String)
    (paths : List String) :
    Delivers plan path (found around plan.options paths) (delivery around plan path paths) := by
  refine ⟨?_, fun hformat => ?_, rfl,
    fun finding hfinding => (Decision.mem_exempted_iff.mp hfinding).1,
    SeverityCounts.count_tally _⟩
  · rw [files_delivery, FileTree.text?_withText, if_pos rfl]
  · have hjson : (session around plan paths).options.format = .json := hformat
    simp only [delivery, Session.savedOutcome, Session.shownReport, Session.savedNote, hjson,
      report_session, List.map_cons, List.map_nil]

/-- **One report that is judged by one profile is judged alike.** -/
theorem Delivers.status_congr {plan plan' : AuditPlan} {report : Report}
    {outcome outcome' : Outcome}
    (h : Delivers plan path report outcome) (h' : Delivers plan' path report outcome')
    (hprofile : plan'.profile = plan.profile) : outcome'.status = outcome.status := by
  rw [h.status, h'.status, hprofile]

/-- An environment that is refused is refused whatever the options are. -/
theorem run_of_variables_refused (h : Options.check raw = .valid options)
    (hrefused : (Settings.ofVariables around.environment).value? = none) :
    run around raw = .ok (refused around
      ("❌ Invalid environment configuration: " ++
        Settings.issuesText (Settings.ofVariables around.environment).issues) []) := by
  rw [run, plan_of_variables_refused h hrefused]
  rfl

/-- **Both runs deliver one report**, unless they are to search for manifests from a place with a
null character in its path. -/
theorem exists_delivers_iff (hdiffer : Options.DifferAt Options.viewKeys raw raw')
    (h : Configured around raw options settings) (h' : Configured around raw' options' settings)
    (hnot : ¬ Lists options) (hprofile : selectProfile around options settings = .ok profile)
    (hprofile' : selectProfile around options' settings = .ok profile')
    (hpath : reportPath? around options settings = some path)
    (hwritable : around.files.Writable path) :
    (∃ paths outcome outcome', manifestPaths around options = .ok paths ∧
        run around raw = .ok outcome ∧ run around raw' = .ok outcome' ∧
        Delivers ⟨options, settings, profile⟩ path (found around options paths) outcome ∧
        Delivers ⟨options', settings, profile'⟩ path (found around options paths) outcome' ∧
        outcome'.files = outcome.files) ↔
      ¬ (options.paths = [] ∧
        '\x00' ∈ (FileTree.pathOf (workingPlace around options)).toList) := by
  have hsame := Options.eq_of_differAt hdiffer h.options h'.options
  have hnot' : ¬ Lists options' := (lists_congr hsame).not.mpr hnot
  rw [← exists_manifestPaths_eq_ok_iff]
  constructor
  · rintro ⟨paths, -, -, hpaths, -⟩
    exact ⟨paths, hpaths⟩
  · rintro ⟨paths, hpaths⟩
    -- The second run audits the same files, and the same is found in them.
    have hpaths' := (manifestPaths_congr hsame).trans hpaths
    have hfound : found around options' paths = found around options paths :=
      found_congr hsame paths
    have hdelivers' := delivers_delivery around ⟨options', settings, profile'⟩ path paths
    rw [hfound] at hdelivers'
    refine ⟨paths, _, _, hpaths, run_of_writable h hnot hprofile hpath hwritable hpaths,
      run_of_writable h' hnot' hprofile' ((reportPath?_congr hsame).trans hpath) hwritable hpaths',
      delivers_delivery .., hdelivers', ?_⟩
    rw [files_delivery, files_delivery, hfound]

/-- **Neither the view nor the policy changes what is found.** Take two runs in the same
surroundings whose options are valid, list nothing and differ in format and profile only. If the
environment is refused they end alike, without a report. Otherwise let both select a profile, and
let the report be one that can be written. Then, unless they are to search for manifests from a
place with a null character in its path,

- both runs deliver one report and leave the same files behind;
- if they are judged by the same profile, they end with the same code. -/
theorem exists_report_of_differAt (around : Surroundings)
    (hdiffer : Options.DifferAt Options.viewKeys raw raw')
    (h : Options.check raw = .valid options) (h' : Options.check raw' = .valid options')
    (hnot : ¬ Lists options) :
    ((Settings.ofVariables around.environment).value? = none →
      ∃ outcome, run around raw = .ok outcome ∧ run around raw' = .ok outcome ∧
        outcome.status.code = 2 ∧ outcome.out = [] ∧ outcome.files = around.files) ∧
    ∀ settings profile profile' path,
      Settings.ofVariables around.environment = .valid settings →
      selectProfile around options settings = .ok profile →
      selectProfile around options' settings = .ok profile' →
      reportPath? around options settings = some path → around.files.Writable path →
        ((∃ paths outcome outcome', manifestPaths around options = .ok paths ∧
            run around raw = .ok outcome ∧ run around raw' = .ok outcome' ∧
            Delivers ⟨options, settings, profile⟩ path (found around options paths) outcome ∧
            Delivers ⟨options', settings, profile'⟩ path (found around options paths) outcome' ∧
            outcome'.files = outcome.files ∧
            (profile' = profile → outcome'.status.code = outcome.status.code)) ↔
          ¬ (options.paths = [] ∧
            '\x00' ∈ (FileTree.pathOf (workingPlace around options)).toList)) := by
  refine ⟨fun hrefused => ?_, ?_⟩
  · exact ⟨_, run_of_variables_refused h hrefused, run_of_variables_refused h' hrefused, rfl, rfl,
      rfl⟩
  · intro settings profile profile' path hsettings hprofile hprofile' hpath hwritable
    rw [← exists_delivers_iff hdiffer ⟨h, hsettings⟩ ⟨h', hsettings⟩ hnot hprofile hprofile' hpath
      hwritable]
    constructor
    · rintro ⟨paths, outcome, outcome', hpaths, hrun, hrun', hdelivers, hdelivers', hfiles, -⟩
      exact ⟨paths, outcome, outcome', hpaths, hrun, hrun', hdelivers, hdelivers', hfiles⟩
    · rintro ⟨paths, outcome, outcome', hpaths, hrun, hrun', hdelivers, hdelivers', hfiles⟩
      exact ⟨paths, outcome, outcome', hpaths, hrun, hrun', hdelivers, hdelivers', hfiles,
        fun hsame => congrArg ExitStatus.code (hdelivers.status_congr hdelivers' hsame)⟩

/-- Two manifests, of which one has a service in privileged mode. -/
def stackSurroundings : Surroundings where
  load := Yaml.load
  files := Audit.twoManifests

/-- Options of an audit that is judged strictly and shown as text. -/
def strictTextOptions : Option Tree :=
  some (.mapping [("paths", .texts ["compose.yml"]), ("profile", .text "strict"),
    ("reportFile", .text "audit.json")])

/-- Options of an audit that is judged by the default profile and shown as data. -/
def tolerantJsonOptions : Option Tree :=
  some (.mapping [("paths", .texts ["compose.yml"]), ("format", .text "json"),
    ("reportFile", .text "audit.json")])

/-- A file beside the manifests can be written if it is no directory. -/
theorem writable_workAudit {tree : FileTree} (hlocation : tree.location = ["work"])
    (hfile : tree.isDirectory ["work", "audit.json"] = false) :
    tree.Writable "/work/audit.json" := by
  have hnames : FileTree.names "/work/audit.json" = ["", "work", "audit.json"] := by decide
  have hway : ∀ place ∈ [[], [], ["work"]], tree.isDirectory place = true := by
    simp [FileTree.isDirectory, hlocation]
  refine ⟨by decide, by decide, ?_, hfile⟩
  rw [hnames]
  simp only [FileTree.isOpen_cons, FileTree.isOpen_nil, and_true]
  exact ⟨⟨hway _ (by decide), by decide⟩, ⟨hway _ (by decide), by decide⟩, hway _ (by decide),
    by decide⟩

/-- The service in privileged mode fails one of the runs, and it stands in the report of both. -/
theorem exists_report_of_differAt_strictText :
    Options.DifferAt Options.viewKeys strictTextOptions tolerantJsonOptions ∧
      stackSurroundings.files.Writable "/work/audit.json" ∧
      ∃ (report : Report) (outcome outcome' : Outcome),
        run stackSurroundings strictTextOptions = .ok outcome ∧
        run stackSurroundings tolerantJsonOptions = .ok outcome' ∧
        outcome'.out.map (· ++ "\n") = [report.json ++ "\n"] ∧
        outcome.files.text? ["work", "audit.json"] = some (report.json ++ "\n") ∧
        outcome'.files = outcome.files ∧
        outcome.status = .fail ∧ outcome'.status = .pass := by
  have hdiffer : Options.DifferAt Options.viewKeys strictTextOptions tolerantJsonOptions := by
    refine ⟨[("paths", .texts ["compose.yml"]), ("profile", .text "strict"),
        ("reportFile", .text "audit.json")],
      [("paths", .texts ["compose.yml"]), ("format", .text "json"),
        ("reportFile", .text "audit.json")], rfl, rfl, fun key hkey => ?_⟩
    simp only [Options.viewKeys, List.mem_cons, List.not_mem_nil, or_false, not_or] at hkey
    simp only [lookup_cons_eq_ite, hkey, if_false]
  have hwritable : stackSurroundings.files.Writable "/work/audit.json" :=
    writable_workAudit rfl (by decide)
  have hselect : selectProfile stackSurroundings
      { paths := ["compose.yml"], profile := some "strict"
        reportTarget := some (.file "audit.json") } {} = .ok .strict :=
    Profile.select_builtIn rfl
  obtain ⟨paths, outcome, outcome', hpaths, hrun, hrun', hdelivers, hdelivers', hfiles, -⟩ :=
    ((exists_report_of_differAt stackSurroundings hdiffer rfl rfl (by decide)).2 {} _ _ _ rfl
      hselect
      Profile.select_default (by decide) hwritable).mpr fun h => List.cons_ne_nil _ _ h.1
  have hfail : (run stackSurroundings strictTextOptions).toOption.map (·.status) = some .fail := by
    decide +kernel
  have hpass : (run stackSurroundings tolerantJsonOptions).toOption.map (·.status) =
      some .pass := by
    decide +kernel
  rw [hrun] at hfail
  rw [hrun'] at hpass
  exact ⟨hdiffer, hwritable, _, outcome, outcome', hrun, hrun', hdelivers'.shown rfl,
    hdelivers.file, hfiles, Option.some.inj hfail, Option.some.inj hpass⟩

/-- Options that place the report beside a directory with a null character in its path. -/
def besideNullOptions : Option Tree :=
  some (.mapping [("cwd", .text "a\x00b"), ("format", .text "json"),
    ("reportFile", .text "../audit.json")])

/-- **A report that is not delivered.** The options are valid and list nothing, the profile can be
selected and the report could be written, but the search for manifests fails. -/
theorem run_besideNullOptions :
    Configured bareSurroundings besideNullOptions
        { cwd := some "a\x00b", format := .json, reportTarget := some (.file "../audit.json") }
        {} ∧
      ¬ Lists
        { cwd := some "a\x00b", format := .json, reportTarget := some (.file "../audit.json") } ∧
      selectProfile bareSurroundings
        { cwd := some "a\x00b", format := .json, reportTarget := some (.file "../audit.json") }
        {} = .ok .riskTolerant ∧
      reportPath? bareSurroundings
        { cwd := some "a\x00b", format := .json, reportTarget := some (.file "../audit.json") }
        {} = some "/work/audit.json" ∧
      bareSurroundings.files.Writable "/work/audit.json" ∧
      ∀ outcome, run bareSurroundings besideNullOptions ≠ .ok outcome := by
  have hnone : (run bareSurroundings besideNullOptions).toOption.isNone = true := by
    decide +kernel
  refine ⟨⟨rfl, rfl⟩, by decide, Profile.select_default, by decide,
    writable_workAudit rfl (by decide), fun outcome hrun => ?_⟩
  rw [hrun] at hnone
  cases hnone

end Command

end ComposeLint
