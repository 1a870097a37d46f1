import ComposeLint.Proofs.FileByFile
import ComposeLint.Proofs.Gate
import ComposeLint.Proofs.Locality
import ComposeLint.Proofs.SmallLetters
import Mathlib.Data.List.Infix

/-!
# The built-in profiles from strict to tolerant

One built-in profile accepts findings by the ids of their rules, another by words in their messages.
That the second accepts all that the first does is no matter of the profiles alone: it holds because
a rule whose id is exempted words its grave hits with an exempted keyword (`Rule.Mentions`), and
because such a word is found whatever else the message holds: putting a text into small letters
leaves a small word in it alone (`IsSmall.infix_lower`). `failing_builtIn` puts the built-in
profiles in order.
-/

namespace ComposeLint

/-- A profile accepts what mentions a keyword of it that is small. -/
theorem Profile.accepts_of_occurs {profile : Profile} {finding : Finding} {keyword : String}
    (hkeyword : keyword ∈ profile.exemptKeywords) (hsmall : Text.IsSmall keyword.toList)
    (hoccurs : keyword.toList <:+: finding.message.toList) : profile.Accepts finding := by
  obtain ⟨before, after, hmessage⟩ := hsmall.infix_lower hoccurs
  exact .inr ⟨keyword, hkeyword, before, after, by rw [Text.lower_eq_self hsmall, hmessage]⟩

/-! ## What grave hits mention -/

namespace Rule

variable {rule : Rule} {tables : RuleTables} {keywords : List String} {service : Service}
  {hit : Hit} {check : Service → RuleTables → List Hit}

/-- Every finding of a rule that is grave mentions one of some keywords. -/
def Mentions (rule : Rule) (tables : RuleTables) (keywords : List String) : Prop :=
  ∀ document, ∀ finding ∈ Engine.block tables document rule, finding.severity = .high →
    ∃ keyword ∈ keywords, keyword.toList <:+: finding.message.toList

/-- A rule mentions what its hits mention. -/
theorem mentions_perService {id name category description remediation : String}
    (h : ∀ service, ∀ hit ∈ check service tables, hit.severity = .high →
      ∃ keyword ∈ keywords, keyword.toList <:+: hit.message.toList) :
    Mentions ⟨id, name, category, description, remediation, perService check⟩ tables keywords := by
  intro document finding hfinding
  obtain ⟨entry, -, hreport⟩ := List.mem_flatMap.mp hfinding
  obtain ⟨hit, hhit, rfl⟩ := List.mem_map.mp hreport
  exact h entry.2 hit hhit

theorem mem_hitIf_iff {condition : Bool} {severity : Severity} {message : String} :
    hit ∈ hitIf condition severity message ↔ condition = true ∧ hit = ⟨severity, message⟩ := by
  cases condition <;> simp [hitIf]

/-- What the rest of a text about a service mentions, the text mentions. -/
theorem infix_about {word : List Char} {rest : String} (h : word <:+: rest.toList) :
    word <:+: (about service rest).toList := by
  rw [about, String.toList_append]
  exact h.trans (List.suffix_append _ _).isInfix

theorem mentions_privilegedMode (h : "privileged" ∈ keywords) :
    privilegedMode.Mentions tables keywords := by
  refine mentions_perService fun service hit hhit _ => ⟨"privileged", h, ?_⟩
  obtain ⟨-, rfl⟩ := mem_hitIf_iff.mp hhit
  exact infix_about (by decide)

/-- The flag of the table stands in the message. -/
theorem mentions_privilegedCommand (h : "privileged" ∈ keywords)
    (hflag : "privileged".toList <:+: tables.privilegedFlag.toList) :
    privilegedCommand.Mentions tables keywords := by
  refine mentions_perService fun service hit hhit _ => ⟨"privileged", h, ?_⟩
  obtain ⟨-, rfl⟩ := mem_hitIf_iff.mp hhit
  exact infix_about (hflag.trans ⟨"uses ".toList, " in command".toList, by simp⟩)

/-- A hit on bind mounts is one that a mount of the service is checked for. -/
theorem exists_of_mem_bindMountHits {checkMount : Mount → String → List Hit}
    (h : hit ∈ bindMountHits service checkMount) :
    ∃ mount ∈ service.volumeMounts,
      hit ∈ checkMount mount (withoutTrailingSlashes mount.source) := by
  obtain ⟨mount, hmount, hhit⟩ := List.mem_flatMap.mp h
  split at hhit
  · exact ⟨mount, hmount, hhit⟩
  · cases hhit

/-- The message holds the path of the table, so it mentions what the path mentions. -/
theorem mentions_dangerousMounts
    (hpaths : ∀ entry ∈ tables.sensitiveMounts, entry.severity = .high →
      ∃ keyword ∈ keywords, keyword.toList <:+: entry.path.toList) :
    dangerousMounts.Mentions tables keywords := by
  refine mentions_perService fun service hit hhit hsev => ?_
  obtain ⟨mount, -, hhit⟩ := exists_of_mem_bindMountHits hhit
  split at hhit
  · next entry hentry =>
    obtain rfl := List.mem_singleton.mp hhit
    obtain ⟨keyword, hkeyword, hoccurs⟩ := hpaths entry (List.mem_of_find?_eq_some hentry) hsev
    refine ⟨keyword, hkeyword, infix_about (hoccurs.trans ?_)⟩
    rw [String.toList_append]
    exact (List.suffix_append _ _).isInfix
  · cases hhit

/-- No hit of this rule is grave. -/
theorem mentions_hostNetwork : hostNetwork.Mentions tables keywords := by
  refine mentions_perService fun service hit hhit hsev => ?_
  obtain ⟨-, rfl⟩ := mem_hitIf_iff.mp hhit
  cases hsev

/-- Neither is one of this rule, be it about an interface or about a port. -/
theorem mentions_exposedPorts : exposedPorts.Mentions tables keywords := by
  refine mentions_perService fun service hit hhit hsev => ?_
  obtain ⟨binding, -, hhit⟩ := List.mem_flatMap.mp hhit
  rcases List.mem_append.mp hhit with hinterface | hport
  · obtain ⟨-, rfl⟩ := mem_hitIf_iff.mp hinterface
    cases hsev
  · split at hport
    · obtain rfl := List.mem_singleton.mp hport
      cases hsev
    · cases hport

/-- Further registries change no text that a message holds. -/
theorem privilegedFlag_trusting (tables : RuleTables) (registries : List String) :
    (tables.trusting registries).privilegedFlag = tables.privilegedFlag := by
  unfold RuleTables.trusting
  split <;> rfl

theorem sensitiveMounts_trusting (tables : RuleTables) (registries : List String) :
    (tables.trusting registries).sensitiveMounts = tables.sensitiveMounts := by
  unfold RuleTables.trusting
  split <;> rfl

/-- The rules that `Profile.riskTolerant` exempts. -/
def exemptByRisk : List Rule :=
  [privilegedMode, privilegedCommand, dangerousMounts, hostNetwork, exposedPorts]

theorem exemptByRisk_subset : exemptByRisk ⊆ allRules := by
  simp [exemptByRisk, allRules, securityRules]

/-- **An exempted rule mentions a keyword** that `Profile.keywordAllowlist` exempts. -/
theorem mentions_of_mem_exemptByRisk (registries : List String) (h : rule ∈ exemptByRisk) :
    rule.Mentions (RuleTables.standard.trusting registries)
      Profile.keywordAllowlist.exemptKeywords := by
  have hflag : "privileged".toList <:+:
      (RuleTables.standard.trusting registries).privilegedFlag.toList := by
    rw [privilegedFlag_trusting]
    decide
  have hpaths : ∀ entry ∈ (RuleTables.standard.trusting registries).sensitiveMounts,
      entry.severity = .high →
        ∃ keyword ∈ Profile.keywordAllowlist.exemptKeywords,
          keyword.toList <:+: entry.path.toList := by
    rw [sensitiveMounts_trusting]
    decide
  have hall : ∀ rule ∈ exemptByRisk, rule.Mentions (RuleTables.standard.trusting registries)
      Profile.keywordAllowlist.exemptKeywords := by
    simp only [exemptByRisk, List.forall_mem_cons, List.not_mem_nil, false_imp_iff, implies_true,
      and_true]
    exact ⟨mentions_privilegedMode (by decide), mentions_privilegedCommand (by decide) hflag,
      mentions_dangerousMounts hpaths, mentions_hostNetwork, mentions_exposedPorts⟩
  exact hall rule h

end Rule

/-! ## The decisions on an audit -/

variable {audit : Audit} {paths : List String} {bestPractices : Bool} {registries : List String}
  {finding : Finding}

/-- A finding that is no error is about a document. -/
theorem Audit.exists_document_of_mem_report (h : finding ∈ (audit.report paths).findings)
    (hsev : finding.severity ≠ .error) : ∃ document, finding ∈ audit.engine.evaluate document := by
  obtain ⟨result, hresult, hfinding⟩ := List.mem_flatMap.mp h
  obtain ⟨path, -, rfl⟩ := List.mem_map.mp hresult
  have hgives := gives_fileResult audit path
  generalize (audit.fileResult path).findings = findings at hgives hfinding
  cases hgives with
  | unreadable | notLoaded | notManifest =>
    rw [List.mem_singleton.mp hfinding] at hsev
    exact absurd rfl hsev
  | parsed => exact ⟨_, hfinding⟩

/-- **What is accepted by its rule is accepted by a keyword.** -/
theorem Profile.accepts_keywordAllowlist
    (hengine : audit.engine = .selected bestPractices (RuleTables.standard.trusting registries))
    (hfinding : finding ∈ (audit.report paths).findings) (hsev : finding.severity = .high)
    (haccepts : riskTolerant.Accepts finding) : keywordAllowlist.Accepts finding := by
  obtain ⟨document, hevaluate⟩ := Audit.exists_document_of_mem_report hfinding (by simp [hsev])
  rw [hengine, Engine.evaluate_eq] at hevaluate
  obtain ⟨rule, hrule, hblock⟩ := List.mem_flatMap.mp hevaluate
  have hexempt : rule.id ∈ Rule.exemptByRisk.map (·.id) := by
    rcases haccepts with hid | ⟨keyword, hkeyword, -⟩
    · exact Engine.ruleId_of_mem_block hblock ▸ hid
    · cases hkeyword
  -- A rule with an exempted id is the exempted rule.
  obtain ⟨exempt, hmem, hid⟩ := List.mem_map.mp hexempt
  obtain rfl := Rule.eq_of_id_eq (Rule.exemptByRisk_subset hmem)
    (Rule.mem_allRules_of_mem_selected hrule) hid
  obtain ⟨keyword, hkeyword, hoccurs⟩ :=
    Rule.mentions_of_mem_exemptByRisk registries hmem document finding hblock hsev
  have hsmall : ∀ keyword ∈ keywordAllowlist.exemptKeywords, Text.IsSmall keyword.toList := by
    decide
  exact accepts_of_occurs hkeyword (hsmall keyword hkeyword) hoccurs

namespace Decision

/-- **The built-in profiles are ever more tolerant**: whatever is audited, by either list of rules
and with any further registries, a grave finding that `riskTolerant` exempts is exempted by
`keywordAllowlist`. So each profile fails a part of what the stricter one fails, and what passes the
stricter one passes it. -/
theorem failing_builtIn
    (hengine : audit.engine = .selected bestPractices (RuleTables.standard.trusting registries))
    (paths : List String) :
    (∀ finding ∈ (of (audit.report paths) .riskTolerant).exempted,
      finding ∈ (of (audit.report paths) .keywordAllowlist).exempted) ∧
    (of (audit.report paths) .keywordAllowlist).failing.Sublist
      (of (audit.report paths) .riskTolerant).failing ∧
    (of (audit.report paths) .riskTolerant).failing.Sublist
      (of (audit.report paths) .strict).failing ∧
    ((of (audit.report paths) .strict).outcome = "PASS" →
      (of (audit.report paths) .riskTolerant).outcome = "PASS") ∧
    ((of (audit.report paths) .riskTolerant).outcome = "PASS" →
      (of (audit.report paths) .keywordAllowlist).outcome = "PASS") := by
  have haccepts : ∀ finding ∈ (audit.report paths).findings,
      finding.severity ∈ Profile.riskTolerant.failOn →
        Profile.riskTolerant.Accepts finding → Profile.keywordAllowlist.Accepts finding :=
    fun finding hfinding hsev =>
      Profile.accepts_keywordAllowlist hengine hfinding (List.mem_singleton.mp hsev)
  have hkeyword : (of (audit.report paths) .keywordAllowlist).failing.Sublist
      (of (audit.report paths) .riskTolerant).failing := by
    refine failing_sublist fun finding hfailing => ?_
    obtain ⟨hmem, hsev, hnot⟩ := mem_failing_iff.mp hfailing
    exact mem_failing_iff.mpr ⟨hmem, hsev, fun hrisk => hnot (haccepts finding hmem hsev hrisk)⟩
  have hrisk : (of (audit.report paths) .riskTolerant).failing.Sublist
      (of (audit.report paths) .strict).failing :=
    failing_sublist_of_relaxes ⟨by decide, by decide, by decide⟩ _
  refine ⟨fun finding hexempted => ?_, hkeyword, hrisk, outcome_eq_pass_of_sublist hrisk,
    outcome_eq_pass_of_sublist hkeyword⟩
  obtain ⟨hmem, hsev, hrisk⟩ := mem_exempted_iff.mp hexempted
  exact mem_exempted_iff.mpr ⟨hmem, hsev, haccepts finding hmem hsev hrisk⟩

/-- A privileged service in capitals, whose name ends in a sigma, with a mount whose path happens to
hold a keyword. -/
def greekManifest : FileTree where
  location := ["work"]
  files := [(["work", "compose.yml"],
    "services: \x7bΑΣ: \x7bprivileged: true, volumes: ['/home/Export:/e']\x7d\x7d\n")]
  directories := []

/-- An audit by all rules, with a registry more. -/
def greekAudit : Audit where
  load := Yaml.load
  engine := .selected true (RuleTables.standard.trusting ["Registry.example"])
  tree := greekManifest
  place := ["work"]

/-- Each profile fails less than the one before. -/
theorem failing_builtIn_greekManifest :
    greekAudit.engine = .selected true (RuleTables.standard.trusting ["Registry.example"]) ∧
    (of (greekAudit.report ["compose.yml"]) .keywordAllowlist).failing.Sublist
      (of (greekAudit.report ["compose.yml"]) .riskTolerant).failing ∧
    ([Profile.strict, .riskTolerant, .keywordAllowlist].map fun profile =>
      (of (greekAudit.report ["compose.yml"]) profile).failing.map (·.message)) =
      [["Service 'ΑΣ' runs in privileged mode",
          "Service 'ΑΣ' has broad filesystem access: /home/Export"],
        ["Service 'ΑΣ' has broad filesystem access: /home/Export"], []] := by
  have hengine : greekAudit.engine =
      .selected true (RuleTables.standard.trusting ["Registry.example"]) := rfl
  exact ⟨hengine, (failing_builtIn hengine ["compose.yml"]).2.1, by decide +kernel⟩

end Decision

end ComposeLint
