import ComposeLint.Proofs.Discovery
import ComposeLint.Proofs.Plan
import ComposeLint.Yaml.Stream

/-!
# How a run ends

Three statuses are read off what a run was given. A run that cannot be configured ends with two and
leaves nothing behind, and one that only lists something ends with zero. An audit ends with two when
its report is wanted and cannot be written, and then nothing is said of a verdict; otherwise it ends
with one exactly when a finding blocks it (`judged_outcome`). The exception are audits that search
for manifests below a directory with a null character in its path: the search fails, nothing catches
its fault, and the run has no status.
-/

namespace ComposeLint

/-! ## Verdicts -/

namespace Profile

/-- Whether a finding fails the run: it is of a severity that does, and the profile does not accept
it. -/
def Blocks (profile : Profile) (finding : Finding) : Prop :=
  finding.severity ∈ profile.failOn ∧ profile.exempts finding = false

end Profile

/-- **A run passes** exactly when no finding blocks it. -/
theorem Decision.passes_iff {report : Report} {profile : Profile} :
    (Decision.of report profile).passes = true ↔
      ∀ finding ∈ report.findings, ¬ profile.Blocks finding := by
  simp only [passes, of, List.isEmpty_iff, List.filter_eq_nil_iff, List.mem_filter, Profile.counts,
    Profile.Blocks, List.contains_iff_mem, Bool.not_eq_true', and_imp, not_and]

/-! ## How texts begin -/

/-- Parts that are joined begin like the first of them. -/
theorem Text.head?_joined (sep : String) {first : String} (hfirst : first ≠ "")
    (rest : List String) :
    (joined sep (first :: rest)).toList.head? = first.toList.head? := by
  have hne : first.toList ≠ [] := by simpa using hfirst
  rw [joined]
  cases rest with
  | nil => rw [String.intercalate_singleton]
  | cons second rest =>
    rw [String.intercalate_cons_cons, String.toList_append, String.toList_append,
      List.append_assoc, List.head?_append_of_ne_nil _ hne]

namespace Decision

/-- What is said of a run that was judged, or of a report that was saved. -/
def Announces (text : String) : Prop :=
  (∃ decision : Decision, text = decision.text ∨ text = "\n" ++ decision.text) ∨
    ∃ path, text = "\n📄 Detailed report saved to " ++ path

theorem head?_text (decision : Decision) :
    decision.text.toList.head? = some '✅' ∨ decision.text.toList.head? = some '💥' := by
  rw [text, parts]
  split
  · refine .inl ((Text.head?_joined _ ?_ _).trans ?_) <;> simp
  · refine .inr ((Text.head?_joined _ ?_ _).trans ?_) <;> simp

/-- Announcements have beginnings of their own. -/
theorem head?_of_announces {text : String} (h : Announces text) :
    text.toList.head? ∈ [some '✅', some '💥', some '\n'] := by
  obtain ⟨decision, rfl | rfl⟩ | ⟨path, rfl⟩ := h
  · rcases decision.head?_text with hhead | hhead <;> simp [hhead]
  · simp
  · simp

end Decision

theorem Report.head?_text (report : Report) : report.text.toList.head? = some '=' := by
  rw [text, parts, header]
  simp only [List.cons_append]
  rw [Text.head?_joined _ (by decide)]
  rfl

theorem Report.head?_json (report : Report) : report.json.toList.head? = some '\x7b' := by
  rw [json, Tree.prettyJson, tree, Tree.prettyAt, Tree.bracketed]
  split
  · rfl
  · simp

theorem Cause.head?_troubleshooting (cause : Cause) :
    cause.troubleshooting.toList.head? = some '🔍' := by
  rw [troubleshooting, troubleshootingParts]
  simp only [List.cons_append]
  rw [Text.head?_joined _ (by simp)]
  simp

/-! ## The report file -/

namespace Command

variable {around : Surroundings} {raw : Option Tree} {options : Options} {settings : Settings}
variable {plan : AuditPlan} {paths : List String} {files : FileTree}

/-- The path from the root that the report is to be written to, if it is wanted. -/
def reportPath? (around : Surroundings) (options : Options) (settings : Settings) :
    Option String :=
  (reportFile? options settings).map fun path =>
    FileTree.pathOf (FileTree.resolve (workingPlace around options) path)

/-- Whether a report is wanted and cannot be written. -/
def LosesReport (around : Surroundings) (options : Options) (settings : Settings) : Prop :=
  ∃ path, reportPath? around options settings = some path ∧ ¬ around.files.Writable path

/-- Whether nothing but the report file changes. -/
structure SparesFiles (around : Surroundings) (options : Options) (settings : Settings)
    (files : FileTree) : Prop where
  location : files.location = around.files.location
  directories : files.directories = around.files.directories
  text : ∀ place, (reportPath? around options settings).map (FileTree.resolve []) ≠ some place →
    files.text? place = around.files.text? place

theorem SparesFiles.refl (around : Surroundings) (options : Options) (settings : Settings) :
    SparesFiles around options settings around.files :=
  ⟨rfl, rfl, fun _ _ => rfl⟩

/-- A report that cannot be written is lost. -/
theorem saved_of_losesReport (h : LosesReport around plan.options plan.settings)
    (paths : List String) : ∃ fault, (session around plan paths).saved = .error fault := by
  obtain ⟨path, hpath, hwritable⟩ := h
  obtain ⟨file, hfile, rfl⟩ := Option.map_eq_some_iff.mp hpath
  have hreport : (session around plan paths).reportFile = some file := hfile
  rw [Session.saved, hreport]
  exact FileTree.write_of_not_writable hwritable _

/-- **A report that can be written is saved.** -/
theorem saved_of_writable (plan : AuditPlan) {path : String}
    (hpath : reportPath? around plan.options plan.settings = some path)
    (hwritable : around.files.Writable path) (paths : List String) :
    (session around plan paths).saved =
      .ok { around.files with
        files := FileTree.setText (FileTree.resolve [] path)
          ((session around plan paths).report.json ++ "\n") around.files.files } := by
  obtain ⟨file, hfile, rfl⟩ := Option.map_eq_some_iff.mp hpath
  have hreport : (session around plan paths).reportFile = some file := hfile
  rw [Session.saved, hreport]
  exact FileTree.write_of_writable hwritable _

/-- A report that is not lost is saved, and nothing else is. -/
theorem saved_of_not_losesReport (h : ¬ LosesReport around plan.options plan.settings)
    (paths : List String) : ∃ files, (session around plan paths).saved = .ok files ∧
      SparesFiles around plan.options plan.settings files := by
  cases hpath : reportPath? around plan.options plan.settings with
  | none =>
    have hreport : (session around plan paths).reportFile = none := Option.map_eq_none_iff.mp hpath
    exact ⟨around.files, by rw [Session.saved, hreport]; rfl, .refl ..⟩
  | some path =>
    have hwritable : around.files.Writable path := not_not.mp fun hno => h ⟨path, hpath, hno⟩
    refine ⟨_, saved_of_writable plan hpath hwritable paths, rfl, rfl, fun place hplace => ?_⟩
    rw [hpath, Option.map_some, ne_eq, Option.some.injEq] at hplace
    exact (FileTree.lookup_setText ..).trans (if_neg (Ne.symm hplace))

/-! ## Audits -/

namespace Session

/-- **When the report is lost, nothing is announced**: the report is shown, and what is wrong. -/
theorem not_announces_unsavedOutcome (session : Session) (fault : FileFault) :
    ∀ text ∈ (session.unsavedOutcome fault).out ++ (session.unsavedOutcome fault).err,
      ¬ Decision.Announces text := by
  have hshown : session.shownReport.toList.head? ∈ [some '=', some '\x7b'] := by
    rw [shownReport]
    cases session.options.format with
    | text => simp [Report.head?_text]
    | json => simp [Report.head?_json]
  have hhead : ∀ text ∈ (session.unsavedOutcome fault).out ++ (session.unsavedOutcome fault).err,
      text.toList.head? ∈ [some '=', some '\x7b', some '🔍'] := by
    simp only [unsavedOutcome, List.cons_append, List.nil_append, List.forall_mem_cons,
      Cause.head?_troubleshooting]
    exact ⟨List.mem_append_left [some '🔍'] hshown, by simp⟩
  intro text htext hannounces
  have hannounced := Decision.head?_of_announces hannounces
  simp only [List.mem_cons, List.not_mem_nil, or_false] at hhead hannounced
  rcases hhead text htext with hhead | hhead | hhead <;> simp [hhead] at hannounced

theorem code_savedOutcome (session : Session) (files : FileTree) :
    (session.savedOutcome files).status.code = if session.decision.passes then 0 else 1 := by
  change session.status.code = _
  rw [status]
  split <;> rfl

end Session

/-- What comes of an audit, by what it finds and whether its report can be written. -/
structure Judged (around : Surroundings) (plan : AuditPlan) (paths : List String)
    (outcome : Outcome) : Prop where
  code_eq_two : outcome.status.code = 2 ↔ LosesReport around plan.options plan.settings
  /-- Nothing is said of a verdict when the report is lost, and no file changes. -/
  lost : LosesReport around plan.options plan.settings →
    (∀ text ∈ outcome.out ++ outcome.err, ¬ Decision.Announces text) ∧
      outcome.files = around.files
  code_eq_one : ¬ LosesReport around plan.options plan.settings →
    (outcome.status.code = 1 ↔
      ∃ finding ∈ (session around plan paths).report.findings, plan.profile.Blocks finding)
  code_eq_zero : ¬ LosesReport around plan.options plan.settings →
    (outcome.status.code = 0 ↔
      ∀ finding ∈ (session around plan paths).report.findings, ¬ plan.profile.Blocks finding)
  spares : SparesFiles around plan.options plan.settings outcome.files

/-- **An audit is judged** by its findings, unless its report is lost. -/
theorem judged_outcome (around : Surroundings) (plan : AuditPlan) (paths : List String) :
    Judged around plan paths (session around plan paths).outcome := by
  by_cases hlost : LosesReport around plan.options plan.settings
  · obtain ⟨fault, hsaved⟩ := saved_of_losesReport hlost paths
    rw [Session.outcome, hsaved]
    exact ⟨iff_of_true rfl hlost,
      fun _ => ⟨(session around plan paths).not_announces_unsavedOutcome fault, rfl⟩,
      absurd hlost, absurd hlost, .refl ..⟩
  · obtain ⟨files, hsaved, hspares⟩ := saved_of_not_losesReport hlost paths
    have hcode := (session around plan paths).code_savedOutcome files
    have hpasses : (session around plan paths).decision.passes = true ↔
        ∀ finding ∈ (session around plan paths).report.findings, ¬ plan.profile.Blocks finding :=
      Decision.passes_iff
    rw [Session.outcome, hsaved]
    -- The report is saved, so that only the findings decide between zero and one.
    refine ⟨iff_of_false ?_ hlost, fun h => absurd h hlost, fun _ => ?_, fun _ => ?_, hspares⟩
    · rw [hcode]
      split <;> decide
    · rw [hcode]
      have hfails := not_congr hpasses
      simp only [not_forall, not_not, exists_prop] at hfails
      rw [← hfails]
      split <;> simp_all
    · rw [hcode, ← hpasses]
      split <;> simp_all

/-! ## Runs -/

/-- Whether a run cannot be configured: its options or its variables are refused, or no profile can
be selected for an audit. -/
def IsRefused (around : Surroundings) (raw : Option Tree) : Prop :=
  (Options.check raw).value? = none ∨ (Settings.ofVariables around.environment).value? = none ∨
    ∃ options settings fault, Configured around raw options settings ∧ ¬ Lists options ∧
      selectProfile around options settings = .error fault

/-- **A run that cannot be configured** is refused. -/
theorem run_of_isRefused (h : IsRefused around raw) :
    ∃ text records, run around raw = .ok (refused around text records) := by
  rw [run]
  rcases h with hoptions | hsettings | ⟨options, settings, fault, hconfigured, hnot, hselect⟩
  · rw [plan_of_options_refused _ hoptions]
    exact ⟨_, _, rfl⟩
  · cases hcheck : Options.check raw with
    | valid options =>
      rw [plan_of_variables_refused hcheck hsettings]
      exact ⟨_, _, rfl⟩
    | flawed issues =>
      rw [plan_of_options_refused _ (by rw [hcheck]; rfl)]
      exact ⟨_, _, rfl⟩
    | mismatched issues =>
      rw [plan_of_options_refused _ (by rw [hcheck]; rfl)]
      exact ⟨_, _, rfl⟩
  · rw [plan_of_not_lists hconfigured hnot, auditPlan, hselect]
    exact ⟨_, _, rfl⟩

/-- Paths that are named are taken, and a search fails only at a null character. -/
theorem exists_manifestPaths_eq_ok_iff :
    (∃ paths, manifestPaths around options = .ok paths) ↔
      ¬ (options.paths = [] ∧ '\x00' ∈ (FileTree.pathOf (workingPlace around options)).toList) := by
  rw [manifestPaths]
  by_cases hnamed : options.paths = []
  · rw [hnamed, List.isEmpty_nil, if_pos rfl, eq_self, true_and,
      ← Discovery.exists_manifests_eq_error_iff around.files]
    cases Discovery.manifests around.files (workingPlace around options) <;> simp
  · simp [hnamed]

/-- An audit is carried out on the files that there are to audit. -/
theorem run_of_selected (h : Configured around raw options settings) (hnot : ¬ Lists options)
    {profile : Profile} (hprofile : selectProfile around options settings = .ok profile) :
    run around raw = (manifestPaths around options).map fun paths =>
      (session around ⟨options, settings, profile⟩ paths).outcome := by
  rw [run, plan_of_not_lists h hnot, auditPlan, hprofile]
  rfl

/-- **How runs end.** A run that cannot be configured ends with two, says nothing and leaves the
files alone. Of the others, one that lists something ends with zero, and one that audits is judged
unless it is to search for manifests from a place with a null character in its path. -/
theorem run_status (around : Surroundings) (raw : Option Tree) :
    (IsRefused around raw →
      ∃ outcome, run around raw = .ok outcome ∧ outcome.status.code = 2 ∧ outcome.out = [] ∧
        outcome.files = around.files) ∧
    ∀ options settings, Configured around raw options settings →
      (Lists options →
        ∃ outcome, run around raw = .ok outcome ∧ outcome.status.code = 0 ∧
          outcome.out.length = 1 ∧ outcome.files = around.files) ∧
      (¬ Lists options → ∀ profile, selectProfile around options settings = .ok profile →
        ((∃ paths outcome, manifestPaths around options = .ok paths ∧
            run around raw = .ok outcome ∧
            Judged around ⟨options, settings, profile⟩ paths outcome) ↔
          ¬ (options.paths = [] ∧
            '\x00' ∈ (FileTree.pathOf (workingPlace around options)).toList))) := by
  refine ⟨fun hrefused => ?_, fun options settings hconfigured => ⟨fun hlists => ?_, ?_⟩⟩
  · obtain ⟨text, records, hrun⟩ := run_of_isRefused hrefused
    exact ⟨_, hrun, rfl, rfl, rfl⟩
  · have hrun : run around raw =
        .ok { status := .pass, out := [listing options], files := around.files } := by
      rw [run, plan_of_lists hconfigured hlists]
      rfl
    exact ⟨_, hrun, rfl, rfl, rfl⟩
  · intro hnot profile hprofile
    have hrun := run_of_selected hconfigured hnot hprofile
    rw [← exists_manifestPaths_eq_ok_iff]
    constructor
    · rintro ⟨paths, _, hpaths, -⟩
      exact ⟨paths, hpaths⟩
    · rintro ⟨paths, hpaths⟩
      rw [hpaths] at hrun
      exact ⟨paths, _, hpaths, hrun, judged_outcome around _ paths⟩

/-- A run without files and variables. -/
def bareSurroundings : Surroundings where
  load := Yaml.load
  files := { location := ["work"], files := [], directories := [] }

/-- Options that name a place for the report in a directory that is not there. -/
def lostReportOptions : Option Tree :=
  some (.mapping [("paths", .texts ["compose.yml"]), ("reportFile", .text "reports/audit.json")])

theorem losesReport_bareSurroundings :
    LosesReport bareSurroundings
      { paths := ["compose.yml"], reportTarget := some (.file "reports/audit.json") } {} := by
  refine ⟨"/work/reports/audit.json", by decide, fun h => ?_⟩
  have hopen := (h.isOpen ["", "work", "reports"] "audit.json" [] (by decide)).1
  exact absurd hopen (by decide)

theorem run_status_lostReport :
    Configured bareSurroundings lostReportOptions
        { paths := ["compose.yml"], reportTarget := some (.file "reports/audit.json") } {} ∧
      ∃ outcome, run bareSurroundings lostReportOptions = .ok outcome ∧
        outcome.status.code = 2 ∧
        ∀ text ∈ outcome.out ++ outcome.err, ¬ Decision.Announces text := by
  have hconfigured : Configured bareSurroundings lostReportOptions
      { paths := ["compose.yml"], reportTarget := some (.file "reports/audit.json") } {} :=
    ⟨rfl, rfl⟩
  have hselect : selectProfile bareSurroundings
      { paths := ["compose.yml"], reportTarget := some (.file "reports/audit.json") } {} =
        .ok .riskTolerant :=
    Profile.select_default
  obtain ⟨_, outcome, -, hrun, hjudged⟩ :=
    (((run_status bareSurroundings lostReportOptions).2 _ _ hconfigured).2 (by decide) _
      hselect).mpr fun h => List.cons_ne_nil _ _ h.1
  exact ⟨hconfigured, outcome, hrun, hjudged.code_eq_two.mpr losesReport_bareSurroundings,
    (hjudged.lost losesReport_bareSurroundings).1⟩

/-- Options that name a directory with a null character in its path. -/
def nullOptions : Option Tree :=
  some (.mapping [("cwd", .text "a\x00b"), ("reportFile", .bool false)])

/-- **A run without a status.** The run is configured and lists nothing, but the search for its
manifests fails. -/
theorem run_nullOptions :
    Configured bareSurroundings nullOptions
        { cwd := some "a\x00b", reportTarget := some .nowhere } {} ∧
      ¬ Lists { cwd := some "a\x00b", reportTarget := some .nowhere } ∧
      selectProfile bareSurroundings { cwd := some "a\x00b", reportTarget := some .nowhere } {} =
        .ok .riskTolerant ∧
      ∀ outcome, run bareSurroundings nullOptions ≠ .ok outcome := by
  have hnone : (run bareSurroundings nullOptions).toOption.isNone = true := by decide +kernel
  refine ⟨⟨rfl, rfl⟩, by decide, Profile.select_default, fun outcome hrun => ?_⟩
  rw [hrun] at hnone
  cases hnone

end Command

end ComposeLint
