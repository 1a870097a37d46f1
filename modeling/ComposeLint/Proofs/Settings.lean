import ComposeLint.Proofs.Acceptance
import ComposeLint.Settings

/-!
# Settings and their variables

Each setting is read from a variable of its own (`ofVariables_eq_valid_iff`), and from the last
value when the variable is set more than once. So taking variables out of an environment changes the
settings of these variables, which are then unset, and no other one (`ofVariables_without`). The log
level and the stage have checks that can refuse an environment, and are left in.
-/

namespace ComposeLint

/-- An environment with some variables taken out. -/
def Variables.without (environment : Variables) (names : List String) : Variables :=
  environment.filter fun entry => !names.contains entry.1

namespace Settings

open Checked Check

variable {environment : Variables} {settings : Settings} {names : List String}

/-- What the environment has at a name. -/
def found (environment : Variables) (name : String) : Option Tree :=
  (environment.reverse.lookup name).map .text

theorem lookup_readingOrder_text (environment : Variables) (name : String) :
    (readingOrder (environment.map fun v => (v.1, Tree.text v.2))).lookup name =
      found environment name := by
  rw [lookup_readingOrder, ← List.map_reverse]
  exact lookup_map_snd (fun _ => Tree.text) environment.reverse name

/-- **Every setting is read from its own variable.** -/
theorem ofVariables_eq_valid_iff : ofVariables environment = .valid settings ↔
    unlessEmpty (Check.optional (oneOf LogLevel.names)) (found environment "LOG_LEVEL") =
        .valid settings.logLevel ∧
      unlessEmpty (Check.optional text) (found environment "AUDIT_PROFILE") =
        .valid settings.profile ∧
      unlessEmpty (Check.optional text) (found environment "AUDIT_PROFILE_FILE") =
        .valid settings.profileFile ∧
      unlessEmpty (Check.optional text) (found environment "AUDIT_REPORT_FILE") =
        .valid settings.reportFile ∧
      unlessEmpty (withDefault .production (oneOf Stage.names)) (found environment "NODE_ENV") =
        .valid settings.stage := by
  rw [← meets_eq_iff, ofVariables, check]
  simp only [object, Tree.entries?_mapping, ofEntries, meets_seq, meets_fmap, meets_field, Accepts,
    lookup_readingOrder_text]
  constructor
  · rintro ⟨_, hlevel, _, hprofile, _, hfile, _, hreport, _, hstage, rfl⟩
    exact ⟨hlevel, hprofile, hfile, hreport, hstage⟩
  · rintro ⟨hlevel, hprofile, hfile, hreport, hstage⟩
    exact ⟨_, hlevel, _, hprofile, _, hfile, _, hreport, _, hstage, rfl⟩

/-- A text is taken as it is, unless it is empty. -/
theorem unlessEmpty_text (value : Option String) :
    unlessEmpty (Check.optional text) (value.map .text) = .valid (value.filter (· != "")) := by
  cases value with
  | none => rfl
  | some s =>
    by_cases hs : s = ""
    · subst hs
      rfl
    · have hkept : (some s).filter (· != "") = some s := Option.filter_some_pos (bne_iff_ne.mpr hs)
      rw [hkept, Option.map_some, unlessEmpty]
      · rfl
      · rintro ⟨rfl⟩
        exact hs rfl

/-- A path of a profile that the environment names is not empty. -/
theorem profileFile_ne_empty (h : ofVariables environment = .valid settings) :
    settings.profileFile ≠ some "" := by
  have hfile := (ofVariables_eq_valid_iff.mp h).2.2.1
  rw [found, unlessEmpty_text] at hfile
  rw [← valid.inj hfile]
  intro hempty
  simpa using (Option.filter_eq_some_iff.mp hempty).2

/-! ## Taking variables out -/

theorem lookup_filter_fst {α : Type} (p : String → Bool) (entries : List (String × α))
    (key : String) :
    (entries.filter fun entry => p entry.1).lookup key =
      if p key then entries.lookup key else none := by
  induction entries with
  | nil => simp
  | cons entry rest ih =>
    obtain ⟨name, value⟩ := entry
    by_cases hkey : key = name
    · subst hkey
      by_cases hp : p key <;> simp [hp, ih]
    · by_cases hp : p name <;> simp [hp, ih, lookup_cons_eq_ite, hkey]

theorem found_without (names : List String) (environment : Variables) (name : String) :
    found (environment.without names) name =
      if name ∈ names then none else found environment name := by
  rw [found, Variables.without, ← List.filter_reverse,
    lookup_filter_fst (fun name => !names.contains name)]
  by_cases hname : name ∈ names <;> simp [hname, found]

/-- **Taking variables out unsets their settings** and leaves the others. -/
theorem ofVariables_without (hlevel : "LOG_LEVEL" ∉ names) (hstage : "NODE_ENV" ∉ names)
    (h : ofVariables environment = .valid settings) :
    ofVariables (environment.without names) =
      .valid
        { settings with
          profile := if "AUDIT_PROFILE" ∈ names then none else settings.profile
          profileFile := if "AUDIT_PROFILE_FILE" ∈ names then none else settings.profileFile
          reportFile := if "AUDIT_REPORT_FILE" ∈ names then none else settings.reportFile } := by
  obtain ⟨hl, hprofile, hfile, hreport, hs⟩ := ofVariables_eq_valid_iff.mp h
  have htext : ∀ {name : String} {value : Option String},
      unlessEmpty (Check.optional text) (found environment name) = .valid value →
        unlessEmpty (Check.optional text) (found (environment.without names) name) =
          .valid (if name ∈ names then none else value) := by
    intro name value hvalue
    rw [found_without]
    split
    · rfl
    · exact hvalue
  refine ofVariables_eq_valid_iff.mpr ⟨?_, htext hprofile, htext hfile, htext hreport, ?_⟩
  · rwa [found_without, if_neg hlevel]
  · rwa [found_without, if_neg hstage]

end Settings

end ComposeLint
