import ComposeLint.Proofs.FileByFile
import ComposeLint.Proofs.Gate
import ComposeLint.Proofs.ProfileSelection

/-!
# Files that could not be audited

A file that gives no document is reported under an id that no rule has. A profile that is selected
for a run exempts rules of the catalog only (`Profile.exemptRules_of_select`), so there is one way
left to accept such a file: a keyword that stands in the message about it
(`Profile.accepts_iff_mentionedIn`). Otherwise it fails every run that counts errors, whatever else
is audited (`Decision.fails_of_unaudited`).
-/

namespace ComposeLint

/-! ## What a selected profile exempts -/

namespace Profile

variable {load : TreeLoader} {tree : FileTree} {known : List String} {name file : Option String}
  {profile : Profile} {finding : Finding}

/-- Whether a keyword of the profile stands in a message, when both are in small letters. -/
def MentionedIn (profile : Profile) (message : String) : Prop :=
  ∃ keyword ∈ profile.exemptKeywords, ∃ before after,
    Text.lower message.toList = before ++ Text.lower keyword.toList ++ after

/-- **A selected profile exempts known rules**, be it built in or read from a file. -/
theorem exemptRules_of_select (h : select load tree known name file = .ok profile) :
    profile.exemptRules ⊆ known :=
  (select_eq_ok_iff.mp h).2

/-- No rule has the id under which files are reported. -/
theorem fileProcessing_notMem_ids : "file-processing" ∉ Rule.ids Rule.allRules := by decide

theorem fileProcessing_notMem_exemptRules
    (h : select load tree (Rule.ids Rule.allRules) name file = .ok profile) :
    "file-processing" ∉ profile.exemptRules :=
  fun hexempt => fileProcessing_notMem_ids (exemptRules_of_select h hexempt)

/-- **So a keyword has to accept what is reported under it.** -/
theorem accepts_iff_mentionedIn
    (h : select load tree (Rule.ids Rule.allRules) name file = .ok profile)
    (hid : finding.ruleId = "file-processing") :
    profile.Accepts finding ↔ profile.MentionedIn finding.message :=
  or_iff_right (hid ▸ fileProcessing_notMem_exemptRules h)

end Profile

/-! ## The finding about a file -/

namespace Audit

variable {audit : Audit} {path reason : String} {paths : List String}

/-- Why the file of a path gives no document: it cannot be read, its text cannot be loaded as a
tree, or the tree is no manifest. -/
inductive Unaudited (audit : Audit) (path : String) : String → Prop
  | unreadable {fault : FileFault} :
      audit.tree.readPlace (FileTree.resolve audit.place path) = .error fault →
        Unaudited audit path fault.message
  | notLoaded {content text : String} :
      audit.tree.readPlace (FileTree.resolve audit.place path) = .ok content →
        audit.load path content = .error text → Unaudited audit path text
  | notManifest {content : String} {tree : Option Tree} {fault : ManifestFault} :
      audit.tree.readPlace (FileTree.resolve audit.place path) = .ok content →
        audit.load path content = .ok tree → Document.ofTree path tree = .error fault →
          Unaudited audit path fault.message

theorem Unaudited.gives (h : audit.Unaudited path reason) :
    audit.Gives path [unprocessed path reason] := by
  cases h with
  | unreadable hread => exact .unreadable hread
  | notLoaded hread hload => exact .notLoaded hread hload
  | notManifest hread hload hmanifest => exact .notManifest hread hload hmanifest

/-- **Whatever else is audited, the file is reported.** -/
theorem Unaudited.mem_report (h : audit.Unaudited path reason) (hpath : path ∈ paths) :
    unprocessed path reason ∈ (audit.report paths).findings := by
  refine List.mem_flatMap.mpr ⟨_, List.mem_map_of_mem hpath, ?_⟩
  rw [← gives_iff.mp h.gives]
  exact List.mem_singleton_self _

end Audit

/-! ## The decision -/

namespace Decision

variable {load : TreeLoader} {tree : FileTree} {name file : Option String} {profile : Profile}

/-- **A file that could not be audited is not accepted by its id.** A profile that is selected for a
run exempts nothing that is reported about such files by the id of a rule. If it counts errors, the
finding about such a file fails exactly when no keyword of the profile stands in its message; so the
run fails unless one does for each such file. -/
theorem fails_of_unaudited
    (h : Profile.select load tree (Rule.ids Rule.allRules) name file = .ok profile) :
    (∀ finding : Finding, finding.ruleId = "file-processing" →
      finding.ruleId ∉ profile.exemptRules ∧
      (profile.exempts finding = true ↔ profile.MentionedIn finding.message)) ∧
    (.error ∈ profile.failOn → ∀ (audit : Audit) (paths : List String),
      (∀ path ∈ paths, ∀ reason, audit.Unaudited path reason →
        (Audit.unprocessed path reason ∈ (of (audit.report paths) profile).failing ↔
          ¬ profile.MentionedIn (Audit.unprocessed path reason).message)) ∧
      ((∃ path ∈ paths, ∃ reason, audit.Unaudited path reason) →
        (of (audit.report paths) profile).outcome = "FAIL" ∨
          ∀ path ∈ paths, ∀ reason, audit.Unaudited path reason →
            profile.MentionedIn (Audit.unprocessed path reason).message)) := by
  refine ⟨fun finding hid => ?_, fun hcounts audit paths => ?_⟩
  · rw [Profile.exempts_iff]
    exact ⟨hid ▸ Profile.fileProcessing_notMem_exemptRules h, Profile.accepts_iff_mentionedIn h hid⟩
  have hfailing : ∀ path ∈ paths, ∀ reason, audit.Unaudited path reason →
      (Audit.unprocessed path reason ∈ (of (audit.report paths) profile).failing ↔
        ¬ profile.MentionedIn (Audit.unprocessed path reason).message) := by
    intro path hpath reason hunaudited
    rw [mem_failing_iff, Profile.accepts_iff_mentionedIn h rfl]
    exact ⟨fun hmem => hmem.2.2, fun hnot => ⟨hunaudited.mem_report hpath, hcounts, hnot⟩⟩
  refine ⟨hfailing, fun _ => or_iff_not_imp_left.mpr ?_⟩
  intro hpasses path hpath reason hunaudited
  by_contra hnot
  exact hpasses (outcome_eq_fail_iff.mpr
    (List.ne_nil_of_mem ((hfailing path hpath reason hunaudited).mpr hnot)))

/-- A profile that counts errors, and a file that is no manifest. -/
def listManifest : FileTree where
  location := ["work"]
  files :=
    [(["work", "team.yml"],
        "name: team\nfailOn: [HIGH, ERROR]\nexemptRules: [privileged-mode]\n" ++
          "exemptKeywords: [ROOT must]\n"),
      (["work", "list.yml"], "[web, db]\n")]
  directories := []

/-- The profile in it. -/
def teamProfile : Profile where
  name := "team"
  failOn := [.high, .error]
  exemptRules := ["privileged-mode"]
  exemptKeywords := ["ROOT must"]

/-- An audit by all rules. -/
def listAudit : Audit where
  load := Yaml.load
  engine := .selected true .standard
  tree := listManifest
  place := ["work"]

/-- What the profile accepts by its keyword passes. With a file that does not exist, the run
fails. -/
theorem fails_of_unaudited_listManifest :
    Profile.select Yaml.load listManifest (Rule.ids Rule.allRules) none (some "team.yml") =
        .ok teamProfile ∧
      Severity.error ∈ teamProfile.failOn ∧
      (listAudit.report ["list.yml"]).findings.map (·.ruleId) = ["file-processing"] ∧
      (of (listAudit.report ["list.yml"]) teamProfile).outcome = "PASS" ∧
      ∃ reason, listAudit.Unaudited "gone.yml" reason ∧
        Audit.unprocessed "gone.yml" reason ∈
          (of (listAudit.report ["list.yml", "gone.yml"]) teamProfile).failing ∧
        (of (listAudit.report ["list.yml", "gone.yml"]) teamProfile).outcome = "FAIL" := by
  have hselect : Profile.select Yaml.load listManifest (Rule.ids Rule.allRules) none
      (some "team.yml") = .ok teamProfile := by
    have hsome : (Profile.select Yaml.load listManifest (Rule.ids Rule.allRules) none
        (some "team.yml")).toOption = some teamProfile := by decide +kernel
    revert hsome
    cases Profile.select Yaml.load listManifest (Rule.ids Rule.allRules) none (some "team.yml") with
    | error fault => exact fun hsome => by cases hsome
    | ok profile => exact fun hsome => congrArg _ (Option.some.inj hsome)
  have hgone : listAudit.Unaudited "gone.yml" (FileFault.missing "/work/gone.yml").message :=
    .unreadable (by decide +kernel)
  obtain ⟨hexempts, hcounts⟩ := fails_of_unaudited hselect
  obtain ⟨hfailing, hfails⟩ := hcounts (by decide) listAudit ["list.yml", "gone.yml"]
  have hunexempted : ¬ teamProfile.exempts
      (Audit.unprocessed "gone.yml" (FileFault.missing "/work/gone.yml").message) = true := by
    decide +kernel
  have hnot := mt (hexempts _ rfl).2.mpr hunexempted
  refine ⟨hselect, by decide, by decide +kernel, by decide +kernel, _, hgone,
    (hfailing _ (by decide) _ hgone).mpr hnot, ?_⟩
  exact (hfails ⟨_, by decide, _, hgone⟩).resolve_right fun hall =>
    hnot (hall _ (by decide) _ hgone)

end Decision

end ComposeLint
