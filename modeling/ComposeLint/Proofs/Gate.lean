import ComposeLint.Policy.Decision
import Mathlib.Data.List.Basic
import Mathlib.Data.List.Perm.Basic

/-!
# What a profile fails

A decision divides the findings that count: `Divided` says what becomes of them, in terms of what a
profile accepts (`Profile.Accepts`) and not of how the lists are made. Since each finding is judged
on its own, files that are audited together fail as they do apart (`failing_append`), and a profile
that counts less and accepts more fails less (`failing_sublist`).
-/

namespace ComposeLint

variable {profile p q : Profile} {report : Report} {finding : Finding}

namespace Profile

/-- Whether a profile accepts a finding: it exempts the rule, or one of its keywords stands in the
message when both are in small letters. -/
def Accepts (profile : Profile) (finding : Finding) : Prop :=
  finding.ruleId ∈ profile.exemptRules ∨
    ∃ keyword ∈ profile.exemptKeywords, ∃ before after,
      Text.lower finding.message.toList = before ++ Text.lower keyword.toList ++ after

theorem exempts_iff : profile.exempts finding = true ↔ profile.Accepts finding := by
  simp only [exempts, Accepts, Bool.or_eq_true, List.contains_iff_mem, List.any_eq_true,
    Text.contains, Text.lowered, String.toList_ofList, Text.occursIn_iff]

theorem counts_iff : profile.counts finding = true ↔ finding.severity ∈ profile.failOn := by
  rw [counts, List.contains_iff_mem]

/-- `q` is at most as strict as `p`: it counts no further severity, and it exempts what `p` exempts.
-/
structure Relaxes (p q : Profile) : Prop where
  failOn : q.failOn ⊆ p.failOn
  exemptRules : p.exemptRules ⊆ q.exemptRules
  exemptKeywords : p.exemptKeywords ⊆ q.exemptKeywords

/-- **Exempting more is accepting more.** -/
theorem Relaxes.accepts (h : Relaxes p q) (haccepts : p.Accepts finding) : q.Accepts finding := by
  rcases haccepts with hrule | ⟨keyword, hkeyword, hoccurs⟩
  · exact .inl (h.exemptRules hrule)
  · exact .inr ⟨keyword, h.exemptKeywords hkeyword, hoccurs⟩

end Profile

namespace Decision

/-! ## Dividing the findings -/

/-- How the findings that count are divided. Both parts keep the order of the findings; together
they are the findings that count, each as often as it is found and in one part only, and what the
profile accepts is in the second. -/
structure Divided (profile : Profile) (findings failing exempted : List Finding) : Prop where
  failing_sublist : failing.Sublist findings
  exempted_sublist : exempted.Sublist findings
  perm : (failing ++ exempted).Perm
    (findings.filter fun finding => finding.severity ∈ profile.failOn)
  disjoint : failing.Disjoint exempted
  not_accepts : ∀ finding ∈ failing, ¬ profile.Accepts finding
  accepts : ∀ finding ∈ exempted, profile.Accepts finding

theorem mem_failing_iff : finding ∈ (of report profile).failing ↔
    finding ∈ report.findings ∧ finding.severity ∈ profile.failOn ∧ ¬ profile.Accepts finding := by
  simp only [of, List.mem_filter, Profile.counts_iff, Bool.not_eq_true', ← Profile.exempts_iff,
    Bool.not_eq_true, and_assoc]

theorem mem_exempted_iff : finding ∈ (of report profile).exempted ↔
    finding ∈ report.findings ∧ finding.severity ∈ profile.failOn ∧ profile.Accepts finding := by
  simp only [of, List.mem_filter, Profile.counts_iff, Profile.exempts_iff, and_assoc]

/-- **A decision divides the findings of its report.** -/
theorem divided_of (report : Report) (profile : Profile) :
    Divided profile report.findings (of report profile).failing (of report profile).exempted where
  failing_sublist := List.filter_sublist.trans List.filter_sublist
  exempted_sublist := List.filter_sublist.trans List.filter_sublist
  perm := by
    have hcounted : report.findings.filter profile.counts =
        report.findings.filter fun finding => finding.severity ∈ profile.failOn :=
      List.filter_congr fun finding _ => by
        rw [Bool.eq_iff_iff, Profile.counts_iff, decide_eq_true_iff]
    rw [← hcounted]
    exact List.perm_append_comm.trans (List.filter_append_perm profile.exempts _)
  disjoint _ hfailing hexempted :=
    (mem_failing_iff.mp hfailing).2.2 (mem_exempted_iff.mp hexempted).2.2
  not_accepts _ hfinding := (mem_failing_iff.mp hfinding).2.2
  accepts _ hfinding := (mem_exempted_iff.mp hfinding).2.2

theorem outcome_eq_fail_iff {decision : Decision} :
    decision.outcome = "FAIL" ↔ decision.failing ≠ [] := by
  rw [outcome, passes]
  cases decision.failing <;> simp

theorem outcome_eq_pass_iff {decision : Decision} :
    decision.outcome = "PASS" ↔ decision.failing = [] := by
  rw [outcome, passes]
  cases decision.failing <;> simp

/-! ## More files -/

/-- **Files that are audited together fail as they do apart.** -/
theorem failing_append (a b : List FileResult) (profile : Profile) :
    (of (.ofFiles (a ++ b)) profile).failing =
      (of (.ofFiles a) profile).failing ++ (of (.ofFiles b) profile).failing := by
  simp only [of, Report.ofFiles, List.flatMap_append, List.filter_append]

theorem exempted_append (a b : List FileResult) (profile : Profile) :
    (of (.ofFiles (a ++ b)) profile).exempted =
      (of (.ofFiles a) profile).exempted ++ (of (.ofFiles b) profile).exempted := by
  simp only [of, Report.ofFiles, List.flatMap_append, List.filter_append]

/-! ## Other profiles -/

/-- What is picked more narrowly is picked from what is picked more widely. -/
theorem filter_sublist_filter {α : Type} {narrow wide : α → Bool} {xs : List α}
    (h : ∀ x ∈ xs, narrow x = true → wide x = true) :
    (xs.filter narrow).Sublist (xs.filter wide) := by
  have hpicked : xs.filter narrow = (xs.filter wide).filter narrow := by
    rw [List.filter_filter]
    refine List.filter_congr fun x hx => ?_
    cases hnarrow : narrow x with
    | false => rfl
    | true => rw [h x hx hnarrow]; rfl
  rw [hpicked]
  exact List.filter_sublist

/-- **Where every failure of `q` is one of `p`, the failures of `q` are among those of `p`**, in
their order. -/
theorem failing_sublist (h : ∀ finding ∈ (of report q).failing, finding ∈ (of report p).failing) :
    (of report q).failing.Sublist (of report p).failing := by
  have hpicked : ∀ profile : Profile, (of report profile).failing =
      report.findings.filter fun finding => !profile.exempts finding && profile.counts finding :=
    fun _ => List.filter_filter
  simp only [hpicked, List.mem_filter] at h ⊢
  exact filter_sublist_filter fun finding hfinding hq => (h finding ⟨hfinding, hq⟩).2

/-- So a report that passes `p` passes `q`. -/
theorem outcome_eq_pass_of_sublist (h : (of report q).failing.Sublist (of report p).failing)
    (hpass : (of report p).outcome = "PASS") : (of report q).outcome = "PASS" := by
  rw [outcome_eq_pass_iff] at hpass ⊢
  exact List.sublist_nil.mp (hpass ▸ h)

theorem failing_sublist_of_relaxes (h : p.Relaxes q) (report : Report) :
    (of report q).failing.Sublist (of report p).failing := by
  refine failing_sublist fun finding hfinding => ?_
  obtain ⟨hmem, hseverity, haccepts⟩ := mem_failing_iff.mp hfinding
  exact mem_failing_iff.mpr ⟨hmem, h.failOn hseverity, fun hp => haccepts (h.accepts hp)⟩

/-- **What a profile fails.** A decision divides the findings that count, and fails exactly when it
has failing ones. The decision on two lists of files is the decisions on each, put together. And a
profile that is at most as strict fails a part of what the other one fails. -/
theorem divided_additive_monotone (profile : Profile) :
    (∀ report,
      Divided profile report.findings (of report profile).failing (of report profile).exempted ∧
      ((of report profile).outcome = "FAIL" ↔ (of report profile).failing ≠ [])) ∧
    (∀ a b : List FileResult,
      (of (.ofFiles (a ++ b)) profile).failing =
        (of (.ofFiles a) profile).failing ++ (of (.ofFiles b) profile).failing ∧
      (of (.ofFiles (a ++ b)) profile).exempted =
        (of (.ofFiles a) profile).exempted ++ (of (.ofFiles b) profile).exempted ∧
      ((of (.ofFiles (a ++ b)) profile).outcome = "FAIL" ↔
        (of (.ofFiles a) profile).outcome = "FAIL" ∨ (of (.ofFiles b) profile).outcome = "FAIL")) ∧
    ∀ other, profile.Relaxes other → ∀ report,
      (of report other).failing.Sublist (of report profile).failing ∧
      ((of report profile).outcome = "PASS" → (of report other).outcome = "PASS") := by
  refine ⟨fun report => ⟨divided_of report profile, outcome_eq_fail_iff⟩, fun a b => ?_, ?_⟩
  · refine ⟨failing_append a b profile, exempted_append a b profile, ?_⟩
    simp only [outcome_eq_fail_iff, failing_append, ne_eq, List.append_eq_nil_iff, not_and_or]
  · intro other hrelaxes report
    have hsublist := failing_sublist_of_relaxes hrelaxes report
    exact ⟨hsublist, outcome_eq_pass_of_sublist hsublist⟩

/-- A profile that counts two severities and exempts a rule. -/
def twoSeverities : Profile where
  name := "two-severities"
  failOn := [.high, .medium]
  exemptRules := ["host-network"]

/-- A profile that counts one of them, and exempts another rule and a keyword. -/
def oneSeverity : Profile where
  name := "one-severity"
  failOn := [.high]
  exemptRules := ["privileged-mode", "host-network"]
  exemptKeywords := ["PORT"]

/-- A file with a finding that only `oneSeverity` exempts by its rule. -/
def privilegedFile : FileResult where
  path := "compose.yml"
  findings := [⟨.high, "Container Security", "Service 'web' runs in privileged mode", "compose.yml",
    "privileged-mode", some "web"⟩]

/-- A file with a finding that both exempt, and one whose message happens to hold the keyword. -/
def exportFile : FileResult where
  path := "export.yml"
  findings := [⟨.medium, "Network Security", "Service 'db' uses host network mode", "export.yml",
      "host-network", some "db"⟩,
    ⟨.high, "Volume Security", "Service 'db' has broad filesystem access: /home/Export",
      "export.yml", "broad-filesystem-mounts", some "db"⟩]

/-- The first profile fails both files, the second one fails neither; and both pass a file in which
nothing is found. -/
theorem divided_additive_monotone_twoFiles :
    twoSeverities.Relaxes oneSeverity ∧
      (of (.ofFiles [privilegedFile, exportFile]) oneSeverity).failing.Sublist
        (of (.ofFiles [privilegedFile, exportFile]) twoSeverities).failing ∧
      ((of (.ofFiles [privilegedFile, exportFile]) twoSeverities).failing.length = 2 ∧
        (of (.ofFiles [privilegedFile, exportFile]) oneSeverity).exempted.length = 2) ∧
      (of (.ofFiles [⟨"empty.yml", []⟩]) twoSeverities).outcome = "PASS" ∧
      (of (.ofFiles [⟨"empty.yml", []⟩]) oneSeverity).outcome = "PASS" := by
  have hrelaxes : twoSeverities.Relaxes oneSeverity := ⟨by decide, by decide, by decide⟩
  have hlaws := (divided_additive_monotone twoSeverities).2.2 oneSeverity hrelaxes
  have hpass : (of (.ofFiles [⟨"empty.yml", []⟩]) twoSeverities).outcome = "PASS" := by decide
  exact ⟨hrelaxes, (hlaws _).1, by decide +kernel, hpass, (hlaws _).2 hpass⟩

end Decision

end ComposeLint
