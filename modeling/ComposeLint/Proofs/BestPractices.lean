import ComposeLint.Proofs.FileByFile
import ComposeLint.Proofs.Gate
import ComposeLint.Proofs.Isolation

/-!
# What the best practices add

The best practices are asked for, and then their rules follow all others. So what they report about
a file stands behind what is reported anyway (`Engine.evaluate_selected`), and it is never grave
(`Finding.IsAdvice`). In the report on several files it stands between the findings of the files,
where a profile that counts no such severity passes over it: its decision is the same
(`Audit.decision_eq`).
-/

namespace ComposeLint

/-- A finding of a best practice. -/
def Finding.IsAdvice (finding : Finding) : Prop :=
  finding.ruleId = Rule.missingHealthcheck.id ∧ finding.severity = .info ∨
    finding.ruleId = Rule.missingRestartPolicy.id ∧ finding.severity = .low

namespace Engine

variable {tables : RuleTables} {document : Document} {finding : Finding}

/-- **The best practices come last.** -/
theorem evaluate_selected (tables : RuleTables) (document : Document) :
    (selected true tables).evaluate document = (selected false tables).evaluate document ++
      Rule.bestPracticeRules.flatMap (block tables document) := by
  rw [evaluate_eq, evaluate_eq]
  exact List.flatMap_append

/-- A rule that looks at services has at most one hit of one severity. -/
theorem severity_of_mem_block {rule : Rule} {condition : Service → Bool} {severity : Severity}
    {message : Service → String}
    (h : rule.inspection = Rule.perService fun service _ =>
      Rule.hitIf (condition service) severity (message service))
    (hmem : finding ∈ block tables document rule) : finding.severity = severity := by
  rw [block, h] at hmem
  obtain ⟨entry, -, hreport⟩ := List.mem_flatMap.mp hmem
  obtain ⟨hit, hhit, rfl⟩ := List.mem_map.mp hreport
  have hone : hit ∈ Rule.hitIf (condition entry.2) severity (message entry.2) := hhit
  rw [Rule.hitIf] at hone
  split at hone
  · rw [List.mem_singleton.mp hone]
  · cases hone

/-- **What the best practices report is advice.** -/
theorem isAdvice_of_mem_block {rule : Rule} (hrule : rule ∈ Rule.bestPracticeRules)
    (h : finding ∈ block tables document rule) : finding.IsAdvice := by
  rw [Rule.bestPracticeRules, List.mem_pair] at hrule
  obtain rfl | rfl := hrule
  · exact .inl ⟨ruleId_of_mem_block h, severity_of_mem_block rfl h⟩
  · exact .inr ⟨ruleId_of_mem_block h, severity_of_mem_block rfl h⟩

end Engine

namespace Decision

variable {profile : Profile} {report report' : Report}

/-- Only the findings that count are looked at. -/
theorem of_congr
    (h : report.findings.filter profile.counts = report'.findings.filter profile.counts) :
    of report profile = of report' profile := by
  rw [of, of, h]

end Decision

namespace Audit

/-- The audit by the rules of a run, with or without the best practices. -/
def selecting (audit : Audit) (bestPractices : Bool) (tables : RuleTables) : Audit :=
  { audit with engine := .selected bestPractices tables }

variable {profile : Profile}

/-- **In each file the best practices only add advice.** -/
theorem exists_advice (audit : Audit) (tables : RuleTables) (path : String) :
    ∃ advice : List Finding, ((audit.selecting true tables).fileResult path).findings =
        ((audit.selecting false tables).fileResult path).findings ++ advice ∧
      ∀ finding ∈ advice, finding.IsAdvice := by
  have houtcome : ∀ bestPractices, (audit.selecting bestPractices tables).outcome path =
      audit.outcome path := fun _ => rfl
  simp only [fileResult, houtcome]
  cases audit.outcome path with
  | unreadable fault => exact ⟨[], rfl, by simp⟩
  | malformed fault => exact ⟨[], rfl, by simp⟩
  | parsed document =>
    refine ⟨_, Engine.evaluate_selected tables document, fun finding hfinding => ?_⟩
    obtain ⟨rule, hrule, hmem⟩ := List.mem_flatMap.mp hfinding
    exact Engine.isAdvice_of_mem_block hrule hmem

/-- Advice does not count where its severities do not. -/
theorem counts_eq_false_of_isAdvice {finding : Finding} (hinfo : .info ∉ profile.failOn)
    (hlow : .low ∉ profile.failOn) (h : finding.IsAdvice) : profile.counts finding = false := by
  rw [Bool.eq_false_iff, ne_eq, Profile.counts_iff]
  obtain ⟨-, hseverity⟩ | ⟨-, hseverity⟩ := h
  · rwa [hseverity]
  · rwa [hseverity]

/-- **The decision does not see the best practices**, if the profile counts neither INFO nor LOW. -/
theorem decision_eq (audit : Audit) (tables : RuleTables) (paths : List String)
    (hinfo : .info ∉ profile.failOn) (hlow : .low ∉ profile.failOn) :
    Decision.of ((audit.selecting true tables).report paths) profile =
      Decision.of ((audit.selecting false tables).report paths) profile := by
  refine Decision.of_congr ?_
  simp only [report, Report.ofFiles, List.flatMap_map, List.filter_flatMap]
  refine List.flatMap_congr fun path _ => ?_
  obtain ⟨advice, hfindings, hadvice⟩ := exists_advice audit tables path
  have hnone : advice.filter profile.counts = [] := List.filter_eq_nil_iff.mpr fun finding hmem =>
    Bool.eq_false_iff.mp (counts_eq_false_of_isAdvice hinfo hlow (hadvice finding hmem))
  rw [hfindings, List.filter_append, hnone, List.append_nil]

/-- **The best practices only add.** In each file their findings follow all others, and each of them
is an INFO about a missing health check or a LOW about a missing restart policy. So a profile that
counts neither severity, as none of those built in does, comes to the same decision without them. -/
theorem bestPractices_only_add (audit : Audit) (tables : RuleTables) (paths : List String) :
    (∀ path, ∃ advice : List Finding,
      ((audit.selecting true tables).fileResult path).findings =
        ((audit.selecting false tables).fileResult path).findings ++ advice ∧
      ∀ finding ∈ advice,
        finding.ruleId = "missing-healthcheck" ∧ finding.severity = .info ∨
          finding.ruleId = "missing-restart-policy" ∧ finding.severity = .low) ∧
    (∀ profile : Profile, .info ∉ profile.failOn → .low ∉ profile.failOn →
      Decision.of ((audit.selecting true tables).report paths) profile =
        Decision.of ((audit.selecting false tables).report paths) profile) ∧
    ∀ profile ∈ Profile.builtIn, .info ∉ profile.failOn ∧ .low ∉ profile.failOn :=
  ⟨exists_advice audit tables,
    fun _ hinfo hlow => decision_eq audit tables paths hinfo hlow, by decide⟩

/-- The database of the second file has no health check and no restart policy, which changes nothing
about the privileged service of the first one. -/
theorem bestPractices_only_add_twoManifests :
    (([false, true].map fun bestPractices =>
      (((auditOf twoManifests).selecting bestPractices .standard).fileResult
        "team.yml").findings.map (·.ruleId)) =
          [["root-user", "missing-hardening", "missing-hardening", "implicit-default-network"],
            ["root-user", "missing-hardening", "missing-hardening", "implicit-default-network",
              "missing-healthcheck", "missing-restart-policy"]]) ∧
    Decision.of
        (((auditOf twoManifests).selecting true .standard).report ["compose.yml", "team.yml"])
        Profile.strict =
      Decision.of
        (((auditOf twoManifests).selecting false .standard).report ["compose.yml", "team.yml"])
        Profile.strict ∧
    (Decision.of
        (((auditOf twoManifests).selecting true .standard).report ["compose.yml", "team.yml"])
        Profile.strict).failing.length = 1 := by
  obtain ⟨-, hdecision, -⟩ :=
    bestPractices_only_add (auditOf twoManifests) .standard ["compose.yml", "team.yml"]
  exact ⟨by decide +kernel, hdecision Profile.strict (by decide) (by decide), by decide +kernel⟩

end Audit

end ComposeLint
