import ComposeLint.Command
import ComposeLint.Proofs.Settings
import ComposeLint.Proofs.Writing

/-!
# What is planned

A run is planned from its options and its settings. If either is refused, so is the run
(`plan_of_options_refused`, `plan_of_variables_refused`); once both are read, it lists something
(`plan_of_lists`) or audits with the profile that they select (`plan_of_not_lists`). A profile that
is built in can always be selected (`select_builtIn`), and of a profile that is named by a file the
name does not matter (`select_file`). Carrying out the plan of an audit looks at the settings for
the report file only (`session_congr`).
-/

namespace ComposeLint

/-! ## Selecting a profile -/

namespace Profile

variable {load : TreeLoader} {tree : FileTree} {known : List String} {name path : String}

theorem find?_eq_some {profile : Profile} (h : find? name = some profile) : profile ∈ builtIn :=
  List.mem_of_find?_eq_some h

/-- Built-in profiles exempt rules that there are. -/
theorem exemptRules_builtIn :
    ∀ profile ∈ builtIn, ∀ id ∈ profile.exemptRules, id ∈ Rule.ids Rule.allRules := by
  decide

/-- **A built-in profile can be selected**, whatever the files are. -/
theorem select_builtIn {profile : Profile} (h : find? name = some profile) :
    select load tree (Rule.ids Rule.allRules) (some name) none = .ok profile := by
  have hunknown : (profile.exemptRules.filter fun id => !(Rule.ids Rule.allRules).contains id) =
      [] := by
    rw [List.filter_eq_nil_iff]
    intro id hid
    simpa using exemptRules_builtIn profile (find?_eq_some h) id hid
  have hpick : pick load tree (some name) none = .ok profile := by
    simp only [pick, Option.filter_none, Option.getD_some, h]
  rw [select, hpick]
  simp only [bind, Except.bind, hunknown]

/-- When nothing is named, the default can be selected. -/
theorem select_default :
    select load tree (Rule.ids Rule.allRules) none none = .ok riskTolerant := by
  have hname : find? defaultName = some riskTolerant := rfl
  have hpick : pick load tree none none = pick load tree (some defaultName) none := rfl
  rw [select, hpick]
  exact select_builtIn hname

/-- **A file wins over a name.** -/
theorem pick_file (hpath : path ≠ "") (name : Option String) :
    pick load tree name (some path) = Profile.load load tree path := by
  have hfile : (some path).filter (· != "") = some path :=
    Option.filter_some_pos (bne_iff_ne.mpr hpath)
  rw [pick, hfile]

theorem select_file (hpath : path ≠ "") (name other : Option String) :
    select load tree known name (some path) = select load tree known other (some path) := by
  rw [select, select, pick_file hpath, pick_file hpath]

/-- No profile is selected from a file that cannot be read. -/
theorem select_unreadable {fault : FileFault} (hpath : path ≠ "")
    (hread : tree.read path = .error fault) (name : Option String) :
    select load tree known name (some path) = .error (.unreadable path fault) := by
  rw [select, pick_file hpath, Profile.load, hread]
  rfl

end Profile

namespace Command

variable {around : Surroundings} {raw : Option Tree} {options : Options} {settings : Settings}

/-! ## Planning -/

/-- What a run reads before it plans anything. -/
structure Configured (around : Surroundings) (raw : Option Tree) (options : Options)
    (settings : Settings) : Prop where
  options : Options.check raw = .valid options
  settings : Settings.ofVariables around.environment = .valid settings

/-- Options are checked before the environment is looked at. -/
theorem plan_of_options_refused (around : Surroundings)
    (h : (Options.check raw).value? = none) :
    plan around raw = .refuseOptions (Options.check raw).issues := by
  rw [plan]
  cases hcheck : Options.check raw with
  | valid options => simp [hcheck, Checked.value?] at h
  | flawed issues => rfl
  | mismatched issues => rfl

theorem plan_of_variables_refused (hoptions : Options.check raw = .valid options)
    (h : (Settings.ofVariables around.environment).value? = none) :
    plan around raw = .refuseVariables (Settings.ofVariables around.environment).issues := by
  simp only [plan, hoptions, planOptions]
  cases hread : Settings.ofVariables around.environment with
  | valid settings => simp [hread, Checked.value?] at h
  | flawed issues => rfl
  | mismatched issues => rfl

/-- Whether options ask for a listing. -/
def Lists (options : Options) : Prop :=
  options.listRules = some true ∨ options.listProfiles = some true

instance (options : Options) : Decidable (Lists options) :=
  inferInstanceAs (Decidable (_ ∨ _))

/-- The listing that options ask for. Rules come before profiles. -/
def listing (options : Options) : String :=
  if options.listRules = some true then Listing.rules else Listing.profiles

/-- What is planned when no listing is asked for. -/
def auditPlan (around : Surroundings) (options : Options) (settings : Settings) : Plan :=
  match selectProfile around options settings with
  | .ok profile => .audit { options, settings, profile }
  | .error fault => .refuseProfile fault

theorem plan_of_lists (h : Configured around raw options settings) (hlists : Lists options) :
    plan around raw = .list (listing options) := by
  simp only [plan, h.options, planOptions, h.settings, listing]
  by_cases hrules : options.listRules = some true
  · rw [if_pos hrules, if_pos hrules]
  · rw [if_neg hrules, if_pos (hlists.resolve_left hrules), if_neg hrules]

theorem plan_of_not_lists (h : Configured around raw options settings) (hnot : ¬ Lists options) :
    plan around raw = auditPlan around options settings := by
  obtain ⟨hrules, hprofiles⟩ := not_or.mp hnot
  simp only [plan, h.options, planOptions, h.settings, if_neg hrules, if_neg hprofiles]
  rfl

/-! ## Carrying out -/

/-- An audit looks at the settings for the report file only, and not at the environment. -/
theorem session_congr {environment : Variables} {other : Settings} {profile : Profile}
    (h : reportFile? options settings = reportFile? options other) (paths : List String) :
    session { around with environment } { options, settings, profile } paths =
      session around { options, settings := other, profile } paths := by
  simp only [session, h]
  rfl

/-- The report is always shown. -/
theorem Session.outcome_out_ne_nil (session : Session) : session.outcome.out ≠ [] := by
  rw [outcome]
  split
  · exact List.cons_ne_nil _ _
  · rw [savedOutcome]
    cases session.options.format <;> exact List.cons_ne_nil _ _

/-- **A run depends on its environment by the profile and the report file.** -/
theorem run_congr {environment : Variables} {other : Settings}
    (h : Configured around raw options settings)
    (hother : Settings.ofVariables environment = .valid other)
    (hprofile : ¬ Lists options →
      selectProfile around options settings = selectProfile around options other)
    (hreport : reportFile? options settings = reportFile? options other) :
    run { around with environment } raw = run around raw := by
  have h' : Configured { around with environment } raw options other := ⟨h.options, hother⟩
  by_cases hlists : Lists options
  · rw [run, run, plan_of_lists h hlists, plan_of_lists h' hlists]
    rfl
  · have hselect : selectProfile { around with environment } options other =
        selectProfile around options settings := (hprofile hlists).symm
    rw [run, run, plan_of_not_lists h hlists, plan_of_not_lists h' hlists, auditPlan, auditPlan,
      hselect]
    cases selectProfile around options settings with
    | error fault => rfl
    | ok profile =>
      simp only [carryOut, session_congr hreport.symm]
      rfl

end Command

end ComposeLint
