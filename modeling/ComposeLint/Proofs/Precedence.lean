import ComposeLint.Proofs.Plan
import ComposeLint.Yaml.Stream

/-!
# Options and the variables that they stand in for

An option is to win over the variable of the same setting. It does where the two are compared:
a file of a profile that is named by an option is taken whatever the variables are, and so is the
place of the report. A profile that an option names loses to a *file* that a variable names, for
name and file are compared one by one and the file is looked at first (`effect_ne_of_variable`).
This is the only way in which a variable gets past an option.
-/

namespace ComposeLint

/-- What comes of a run, without its log. -/
def Outcome.effect (outcome : Outcome) : ExitStatus × List String × List String × FileTree :=
  (outcome.status, outcome.out, outcome.err, outcome.files)

namespace Command

/-- What a run does, without its log. -/
def effect (around : Surroundings) (raw : Option Tree) :
    Except Discovery.SearchFault (ExitStatus × List String × List String × FileTree) :=
  (run around raw).map Outcome.effect

theorem toOption_effect (around : Surroundings) (raw : Option Tree) :
    (effect around raw).toOption.map (·.1) = (run around raw).toOption.map (·.status) := by
  rw [effect]
  cases run around raw <;> rfl

/-- The variables that name a profile. -/
def profileVariables : List String := ["AUDIT_PROFILE", "AUDIT_PROFILE_FILE"]

/-- The variable that names a place for the report. -/
def reportVariable : String := "AUDIT_REPORT_FILE"

/-- Surroundings with some variables taken out of the environment. -/
def Surroundings.without (around : Surroundings) (names : List String) : Surroundings :=
  { around with environment := around.environment.without names }

variable {around : Surroundings} {raw : Option Tree} {options : Options} {settings : Settings}

/-! ## Options that win -/

/-- The settings without the variables of the profile. -/
theorem settings_without_profile (h : Settings.ofVariables around.environment = .valid settings) :
    Settings.ofVariables (around.environment.without profileVariables) =
      .valid { settings with profile := none, profileFile := none } :=
  Settings.ofVariables_without (by decide) (by decide) h

theorem Configured.without_profile (h : Configured around raw options settings) :
    Configured (around.without profileVariables) raw options
      { settings with profile := none, profileFile := none } :=
  ⟨h.options, settings_without_profile h.settings⟩

/-- **A file that an option names is taken**, whatever the variables are. -/
theorem run_of_profileFile (h : Configured around raw options settings) {path : String}
    (hfile : options.profileFile = some path) (hpath : path ≠ "") :
    run (around.without profileVariables) raw = run around raw := by
  refine run_congr h (settings_without_profile h.settings) (fun _ => ?_) rfl
  rw [selectProfile, selectProfile, hfile]
  exact Profile.select_file hpath _ _

/-- **A place for the report that an option names is taken.** -/
theorem run_of_reportTarget (h : Configured around raw options settings)
    (htarget : options.reportTarget.isSome) :
    run (around.without [reportVariable]) raw = run around raw := by
  refine run_congr h (Settings.ofVariables_without (by decide) (by decide) h.settings)
    (fun _ => rfl) ?_
  obtain ⟨target, htarget⟩ := Option.isSome_iff_exists.mp htarget
  rw [reportFile?, reportFile?, htarget]
  cases target <;> rfl

/-- A built-in profile that an option names is taken if no variable names a file. -/
theorem run_of_profile (h : Configured around raw options settings) {name : String}
    (hname : options.profile = some name) (hfile : Lists options ∨ settings.profileFile = none) :
    run (around.without profileVariables) raw = run around raw := by
  refine run_congr h (settings_without_profile h.settings) (fun hnot => ?_) rfl
  rw [selectProfile, selectProfile, hname, hfile.resolve_left hnot]
  rfl

/-! ## A file that a variable names -/

/-- **A file that a variable names wins over a built-in profile.** If it cannot be read, the run
ends without a report, and without the variable there is one. -/
theorem effect_ne_of_variable (h : Configured around raw options settings)
    (hnot : ¬ Lists options) {name path : String} (hname : options.profile = some name)
    (hbuiltIn : (Profile.find? name).isSome) (hfile : options.profileFile = none)
    (hvariable : settings.profileFile = some path) {fault : FileFault}
    (hread : around.files.read path = .error fault) :
    effect (around.without profileVariables) raw ≠ effect around raw := by
  obtain ⟨profile, hprofile⟩ := Option.isSome_iff_exists.mp hbuiltIn
  have hpath : path ≠ "" := fun hempty =>
    Settings.profileFile_ne_empty h.settings (hempty ▸ hvariable)
  have hrefused : plan around raw = .refuseProfile (.unreadable path fault) := by
    have hselect : selectProfile around options settings = .error (.unreadable path fault) := by
      rw [selectProfile, hfile, hvariable]
      exact Profile.select_unreadable hpath hread _
    rw [plan_of_not_lists h hnot, auditPlan, hselect]
  have haudit : plan (around.without profileVariables) raw =
      .audit ⟨options, { settings with profile := none, profileFile := none }, profile⟩ := by
    have hselect : selectProfile (around.without profileVariables) options
        { settings with profile := none, profileFile := none } = .ok profile := by
      rw [selectProfile, hname, hfile]
      exact Profile.select_builtIn hprofile
    rw [plan_of_not_lists h.without_profile hnot, auditPlan, hselect]
  rw [effect, effect, run, run, hrefused, haudit]
  simp only [carryOut]
  cases manifestPaths (around.without profileVariables) options with
  | error fault => exact fun heq => by cases heq
  | ok paths =>
    intro heq
    exact Session.outcome_out_ne_nil _ (congrArg (·.2.1) (Except.ok.inj heq))

/-- **Options win over the variables that they stand in for**, with one exception. Options that are
refused are refused whatever the variables are. Of valid ones,

- a built-in profile is used as if no variable named a profile, whatever the files are, exactly if
  something is only listed or no variable names a file;
- a file of a profile is used as if no variable named a profile;
- a place for the report, or that there is to be none, is taken as if no variable named one. -/
theorem effect_without (around : Surroundings) (raw : Option Tree) {settings : Settings}
    (hsettings : Settings.ofVariables around.environment = .valid settings) :
    ((Options.check raw).value? = none →
      ∀ names, effect (around.without names) raw = effect around raw) ∧
    ∀ options, Options.check raw = .valid options →
      (∀ name, options.profile = some name → (Profile.find? name).isSome →
        options.profileFile = none →
        ((∀ files, effect ({ around with files }.without profileVariables) raw =
            effect { around with files } raw) ↔
          Lists options ∨ settings.profileFile = none)) ∧
      (∀ path, options.profileFile = some path → path ≠ "" →
        effect (around.without profileVariables) raw = effect around raw) ∧
      (options.reportTarget.isSome →
        effect (around.without [reportVariable]) raw = effect around raw) := by
  refine ⟨fun hrefused names => ?_, fun options hoptions => ?_⟩
  · rw [effect, effect, run, run, plan_of_options_refused _ hrefused,
      plan_of_options_refused _ hrefused]
    rfl
  have hconfigured : ∀ files, Configured { around with files } raw options settings :=
    fun files => ⟨hoptions, hsettings⟩
  refine ⟨fun name hname hbuiltIn hfile => ⟨fun hsame => ?_, fun hor files => ?_⟩,
    fun path hfile hpath => ?_, fun htarget => ?_⟩
  -- Where there are no files, the one that the variable names cannot be read, and the runs differ.
  · by_contra hnone
    obtain ⟨hnot, hvariable⟩ := not_or.mp hnone
    obtain ⟨path, hvariable⟩ := Option.ne_none_iff_exists'.mp hvariable
    let empty : FileTree := { location := [], files := [], directories := [] }
    obtain ⟨fault, hread⟩ : ∃ fault, empty.read path = .error fault :=
      FileTree.read_of_no_files rfl path
    exact effect_ne_of_variable (hconfigured empty) hnot hname hbuiltIn hfile hvariable hread
      (hsame empty)
  · exact congrArg _ (run_of_profile (hconfigured files) hname hor)
  · exact congrArg _ (run_of_profileFile (hconfigured around.files) hfile hpath)
  · exact congrArg _ (run_of_reportTarget (hconfigured around.files) htarget)

/-- A manifest with a service that runs in privileged mode, and a profile that accepts it. -/
def lenientTeam : FileTree where
  location := ["work"]
  files :=
    [(["work", "compose.yml"], "services: \x7bweb: \x7bimage: web:1, privileged: true\x7d\x7d\n"),
      (["work", "team.yml"], "name: team\nexemptRules: [privileged-mode]\n")]
  directories := []

/-- An environment in which a variable names the profile of the team. -/
def teamSurroundings : Surroundings where
  load := Yaml.load
  environment := [("AUDIT_PROFILE_FILE", "team.yml")]
  files := lenientTeam

/-- Options that name the strict profile. -/
def strictOptions : Option Tree :=
  some (.mapping
    [("paths", .texts ["compose.yml"]), ("profile", .text "strict"), ("reportFile", .bool false)])

theorem settings_teamSurroundings :
    Settings.ofVariables teamSurroundings.environment =
      .valid { profileFile := some "team.yml" } := by
  rfl

theorem check_strictOptions :
    Options.check strictOptions =
      .valid
        { paths := ["compose.yml"], profile := some "strict", reportTarget := some .nowhere } := by
  rfl

theorem effect_without_strictOptions :
    Settings.ofVariables teamSurroundings.environment =
        .valid { profileFile := some "team.yml" } ∧
      ¬ ∀ files, effect ({ teamSurroundings with files }.without profileVariables) strictOptions =
        effect { teamSurroundings with files } strictOptions := by
  refine ⟨settings_teamSurroundings, fun hsame => ?_⟩
  have hor := (((effect_without teamSurroundings strictOptions settings_teamSurroundings).2 _
    check_strictOptions).1 "strict" rfl rfl rfl).mp hsame
  simp [Lists] at hor

/-- **The strict profile that the options name does not judge the run.** With the variable it
passes, and without the variable it fails. -/
theorem not_effect_without_strictOptions :
    Options.check strictOptions =
        .valid
          { paths := ["compose.yml"], profile := some "strict", reportTarget := some .nowhere } ∧
      (Profile.find? "strict").isSome ∧
      Settings.ofVariables teamSurroundings.environment =
        .valid { profileFile := some "team.yml" } ∧
      (run teamSurroundings strictOptions).toOption.map (·.status) = some .pass ∧
      (run (teamSurroundings.without profileVariables) strictOptions).toOption.map (·.status) =
        some .fail ∧
      effect (teamSurroundings.without profileVariables) strictOptions ≠
        effect teamSurroundings strictOptions := by
  have hpass : (run teamSurroundings strictOptions).toOption.map (·.status) = some .pass := by
    decide +kernel
  have hfail : (run (teamSurroundings.without profileVariables) strictOptions).toOption.map
      (·.status) = some .fail := by
    decide +kernel
  refine ⟨check_strictOptions, rfl, settings_teamSurroundings, hpass, hfail, fun heq => ?_⟩
  have hstatus := congrArg (fun done => done.toOption.map (·.1)) heq
  rw [toOption_effect, toOption_effect, hpass, hfail] at hstatus
  cases hstatus

end Command

end ComposeLint
