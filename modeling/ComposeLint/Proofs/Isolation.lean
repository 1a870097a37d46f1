import ComposeLint.Rule.Evaluation
import Mathlib.Algebra.Ring.Nat
import Mathlib.Data.List.Nodup

/-!
# Failing rules are isolated

`Engine.evaluate` reads its findings off a list of invocations. This file says what it gives
without that list: every rule has a `block` of findings, in the order of the rules, and in the
block of a rule every service has a `report`, in the order of the services. `evaluate_eq` is the
equation; the rest is read off it. A rule that is made to fail on one service (`Breakage`)
exchanges one report for one error and leaves what stands before and after it as it was, and
`failures` counts the warnings of a run without looking at its log.

An error tells what was raised. So all of this is what an evaluation comes to exactly where every
raised value has a text (`Reportable`, `evaluate?_eq_ok_iff`). One value without a text is enough to
end an evaluation and to lose every other finding.
-/

namespace ComposeLint

/-! ## Collecting what may fail -/

section Collecting

variable {ε α β : Type} {f : α → Except ε (List β)} {g : α → List β} {p : α → Prop}
  {first last : List α} {x : α}

/-- A collection is made when no item fails, and then it is that of the items. -/
theorem flatMapM_eq_ok_iff (hf : ∀ x ys, f x = .ok ys ↔ p x ∧ ys = g x) {xs : List α}
    {zs : List β} : xs.flatMapM f = .ok zs ↔ (∀ x ∈ xs, p x) ∧ zs = xs.flatMap g := by
  induction xs generalizing zs with
  | nil => simp [pure, Except.pure, eq_comm]
  | cons x xs ih =>
    rw [List.flatMapM_cons, List.forall_mem_cons, List.flatMap_cons]
    cases hx : f x with
    | error e =>
      have hp : ¬ p x := fun hp => by simpa [hx] using (hf x (g x)).mpr ⟨hp, rfl⟩
      simp [hp, bind, Except.bind]
    | ok ys =>
      obtain ⟨hp, rfl⟩ := (hf x ys).mp hx
      cases hxs : xs.flatMapM f with
      | error e =>
        have hnone : ¬ ∀ x ∈ xs, p x := fun h => by simpa [hxs] using ih.mpr ⟨h, rfl⟩
        simp [hnone, bind, Except.bind]
      | ok rest =>
        obtain ⟨hrest, rfl⟩ := ih.mp hxs
        rw [and_iff_right ⟨hp, hrest⟩, eq_comm (a := zs)]
        exact .of_eq (Except.ok.injEq ..)

/-- Where no other item fails, one decides whether a collection is made. -/
theorem flatMapM_append_cons (hf : ∀ x ys, f x = .ok ys ↔ p x ∧ ys = g x)
    (hfirst : ∀ y ∈ first, p y) (hlast : ∀ y ∈ last, p y) :
    (first ++ x :: last).flatMapM f =
      (f x).map fun ys => first.flatMap g ++ ys ++ last.flatMap g := by
  induction first with
  | nil =>
    have hrest := (flatMapM_eq_ok_iff hf).mpr ⟨hlast, rfl⟩
    rw [List.nil_append, List.flatMapM_cons, hrest]
    cases f x <;> rfl
  | cons y first ih =>
    rw [List.forall_mem_cons] at hfirst
    have hy := (hf y _).mpr ⟨hfirst.1, rfl⟩
    rw [List.cons_append, List.flatMapM_cons, hy, ih hfirst.2]
    cases f x <;> simp [bind, Except.bind, pure, Except.pure, Except.map]

/-- Up to the first item that is not taken there are as many as in all, only if all are taken. -/
theorem countP_takeWhile_eq_iff {counts takes : α → Bool} {xs : List α}
    (h : ∀ x ∈ xs, takes x = false → counts x) :
    (xs.takeWhile takes).countP counts = xs.countP counts ↔ ∀ x ∈ xs, takes x := by
  induction xs with
  | nil => simp
  | cons x xs ih =>
    rw [List.forall_mem_cons] at h ⊢
    cases hx : takes x with
    | true => simp [hx, List.countP_cons, ih h.2]
    | false => simp [hx, h.1 hx]

end Collecting

/-! ## What is raised -/

/-- Whether a raised value has a text: a foreign value has its JSON text or its own. -/
inductive Raised.HasText : Raised → Prop
  | cause {error : Cause} : HasText (.cause error)
  | data {tree : Tree} : HasText (.data tree)
  | json {text : String} {own : Except Raised String} : HasText (.foreign (.ok (some text)) own)
  | own {json : Except Raised (Option String)} {text : String} : HasText (.foreign json (.ok text))

theorem Raised.hasText_iff {raised : Raised} :
    raised.HasText ↔ ∃ reason, raised.text = .ok reason := by
  constructor
  · intro h
    cases h with
    | cause => exact ⟨_, rfl⟩
    | data => exact ⟨_, rfl⟩
    | json => exact ⟨_, rfl⟩
    | @own json text =>
      rcases json with _ | _ | shown
      · exact ⟨text, rfl⟩
      · exact ⟨text, rfl⟩
      · exact ⟨shown, rfl⟩
  · rintro ⟨reason, h⟩
    match raised, h with
    | .cause _, _ => exact .cause
    | .data _, _ => exact .data
    | .foreign (.ok (some _)) _, _ => exact .json
    | .foreign (.ok none) (.ok _), _ => exact .own
    | .foreign (.error _) (.ok _), _ => exact .own

/-- A value that a rule raises on a document. -/
inductive Rule.Raises (tables : RuleTables) (document : Document) (rule : Rule) (raised : Raised) :
    Prop
  | document {check : RuleContext → Except Raised (List Hit)} :
      rule.inspection = .document check → check ⟨document, tables⟩ = .error raised →
        Raises tables document rule raised
  | service {check : Service → RuleContext → Except Raised (List Hit)} {entry : String × Service} :
      rule.inspection = .service check → entry ∈ document.services.entries →
        check entry.2 ⟨document, tables⟩ = .error raised → Raises tables document rule raised

theorem Rule.exists_perService {id name category description remediation : String}
    {check : Service → RuleTables → List Hit} : ∃ check',
      (⟨id, name, category, description, remediation, perService check⟩ : Rule).inspection =
        perService check' :=
  ⟨check, rfl⟩

/-- Of the rules of the catalog only the one about external networks looks at the document, and
the others look at nothing but a service and the tables. -/
theorem Rule.eq_externalNetworks_or {rule : Rule} (h : rule ∈ allRules) :
    rule = externalNetworks ∨ ∃ check, rule.inspection = perService check := by
  have hall : ∀ rule ∈ allRules,
      rule = externalNetworks ∨ ∃ check, rule.inspection = perService check := by
    simp only [allRules, securityRules, bestPracticeRules, List.cons_append, List.nil_append,
      List.forall_mem_cons, List.not_mem_nil, false_imp_iff, implies_true, and_true]
    refine ⟨?_, ?_, ?_, ?_, ?_, ?_, ?_, ?_, ?_, ?_, .inl trivial, ?_, ?_, ?_, ?_, ?_, ?_⟩
    all_goals exact .inr exists_perService
  exact hall rule h

/-- **The rules of the catalog raise nothing.** -/
theorem Rule.not_raises {tables : RuleTables} {document : Document} {rule : Rule} {raised : Raised}
    (h : rule ∈ allRules) : ¬ rule.Raises tables document raised := by
  rintro (⟨hcheck, hraised⟩ | ⟨hcheck, -, hraised⟩) <;>
    obtain rfl | ⟨check', hcheck'⟩ := eq_externalNetworks_or h
  · cases hcheck; cases hraised
  · rw [hcheck'] at hcheck; cases hcheck
  · cases hcheck
  · rw [hcheck'] at hcheck; cases hcheck; cases hraised

namespace Engine

variable {tables : RuleTables} {document : Document} {rule : Rule} {rules : List Rule}

/-- Every value that some rules raise on a document has a text. -/
def Reportable (rules : List Rule) (tables : RuleTables) (document : Document) : Prop :=
  ∀ rule ∈ rules, ∀ raised, rule.Raises tables document raised → raised.HasText

/-! ## What an evaluation reports -/

/-- The error that stands for all that a failing rule would have reported at one place. -/
def failureReport (rule : Rule) (path : String) (service : Option String) (reason : String) :
    Finding where
  severity := .error
  category := "Rule Evaluation"
  message := Cause.ruleMessage rule.id service reason
  sourceFile := path
  ruleId := rule.id
  serviceName := service

/-- What a rule reports at one place: its hits, each with what the rule and the place add to it,
or one error, which needs a text of what was raised. -/
def report (rule : Rule) (path : String) (service : Option String) :
    Except Raised (List Hit) → List Finding
  | .ok hits =>
    hits.map fun hit => ⟨hit.severity, rule.category, hit.message, path, rule.id, service⟩
  | .error raised =>
    match raised.text with
    | .ok reason => [failureReport rule path service reason]
    | .error _ => []

/-- What a rule reports about a document: one report, or one for each service. -/
def block (tables : RuleTables) (document : Document) (rule : Rule) : List Finding :=
  match rule.inspection with
  | .document check => report rule document.path none (check ⟨document, tables⟩)
  | .service check =>
    document.services.entries.flatMap fun entry =>
      report rule document.path (some entry.2.name) (check entry.2 ⟨document, tables⟩)

/-- Whether a rule failed. -/
def hasFailed : Except Raised (List Hit) → Bool
  | .ok _ => false
  | .error _ => true

/-- How often a rule fails on a document. -/
def failures (tables : RuleTables) (document : Document) (rule : Rule) : Nat :=
  match rule.inspection with
  | .document check => if hasFailed (check ⟨document, tables⟩) then 1 else 0
  | .service check =>
    document.services.entries.countP fun entry => hasFailed (check entry.2 ⟨document, tables⟩)

/-- Whether a record warns of a failed rule. -/
def isFailureWarning (record : LogRecord) : Bool :=
  record.level == .warn && record.message == "Rule evaluation failed"

/-! ## Engines -/

/-- Nothing is repeated among distinct ids that have not been seen. -/
theorem repeatedId?_eq_none_of_nodup : ∀ {rules : List Rule} {seen : List String},
    (Rule.ids rules).Nodup → (∀ id ∈ Rule.ids rules, id ∉ seen) →
      repeatedId? seen rules = none := by
  intro rules
  induction rules with
  | nil => intro seen _ _; rfl
  | cons rule rest ih =>
    intro seen distinct unseen
    obtain ⟨fresh, distinct⟩ := List.nodup_cons.mp distinct
    have hseen : seen.contains rule.id = false := by
      simpa using unseen rule.id (List.mem_cons_self ..)
    rw [repeatedId?, hseen]
    refine ih distinct fun id hid => ?_
    rw [List.mem_cons, not_or]
    refine ⟨?_, unseen id (List.mem_cons_of_mem _ hid)⟩
    rintro rfl
    exact fresh hid

/-- **Distinct ids make an engine.** -/
theorem create?_eq (distinct : (Rule.ids rules).Nodup) :
    create? rules tables = .ok ⟨rules, tables, distinct⟩ := by
  have hnone : repeatedId? [] rules = none := repeatedId?_eq_none_of_nodup distinct (by simp)
  unfold create?
  split
  · next hsome => rw [hnone] at hsome; cases hsome
  · rfl

/-! ## The blocks -/

/-- Whether what an invocation raised, if anything, has a text. -/
def IsReportable (invocation : Invocation) : Prop :=
  ∀ raised, invocation.outcome = .error raised → raised.HasText

/-- What an invocation reports. -/
def reportOf (path : String) (invocation : Invocation) : List Finding :=
  report invocation.rule path invocation.service invocation.outcome

/-- **An invocation is one report**, if it comes to findings. -/
theorem findings?_eq_ok_iff (path : String) (invocation : Invocation) (findings : List Finding) :
    invocation.findings? path = .ok findings ↔
      IsReportable invocation ∧ findings = reportOf path invocation := by
  obtain ⟨rule, service, outcome⟩ := invocation
  cases outcome with
  | ok hits =>
    have hreportable : IsReportable ⟨rule, service, .ok hits⟩ := fun _ h => by cases h
    rw [and_iff_right hreportable, eq_comm (a := findings)]
    exact .of_eq (Except.ok.injEq ..)
  | error raised =>
    have hreportable : IsReportable ⟨rule, service, .error raised⟩ ↔ raised.HasText :=
      ⟨fun h => h raised rfl, fun h _ heq => by cases heq; exact h⟩
    rw [hreportable, Raised.hasText_iff]
    cases htext : raised.text with
    | ok reason =>
      simp only [Invocation.findings?, reportOf, report, htext, Except.map]
      rw [and_iff_right ⟨reason, rfl⟩, eq_comm (a := findings)]
      exact .of_eq (Except.ok.injEq ..)
    | error fault => simp [Invocation.findings?, htext, Except.map]

theorem findings_eq_reportOf (path : String) (invocation : Invocation) :
    invocation.findings path = reportOf path invocation := by
  unfold Invocation.findings Invocation.findings? reportOf report
  cases invocation.outcome with
  | ok hits => rfl
  | error raised => dsimp only; cases raised.text <;> rfl

theorem isOk_findings?_iff {path : String} {invocation : Invocation} :
    (invocation.findings? path).isOk ↔ IsReportable invocation := by
  have hiff := findings?_eq_ok_iff path invocation
  cases h : invocation.findings? path with
  | ok findings => exact iff_of_true rfl ((hiff findings).mp h).1
  | error fault =>
    refine iff_of_false Bool.false_ne_true fun hreportable => ?_
    cases h.symm.trans ((hiff _).mpr ⟨hreportable, rfl⟩)

/-- What cannot be reported has failed. -/
theorem hasFailed_of_not_isReportable {invocation : Invocation} (h : ¬ IsReportable invocation) :
    hasFailed invocation.outcome := by
  cases houtcome : invocation.outcome with
  | ok hits => exact absurd (fun raised hraised => by cases houtcome.symm.trans hraised) h
  | error raised => rfl

/-- The invocations of a rule are its block. -/
theorem flatMap_reportOf_ofRule (rule : Rule) :
    (Invocation.ofRule tables document rule).flatMap (reportOf document.path) =
      block tables document rule := by
  unfold Invocation.ofRule block
  cases rule.inspection with
  | document check => simp [reportOf]
  | service check =>
    simp only [Table.values, List.map_map, List.flatMap_map, reportOf, Function.comp_apply]

theorem flatMap_flatMap_reportOf (rules : List Rule) :
    (rules.flatMap (Invocation.ofRule tables document)).flatMap (reportOf document.path) =
      rules.flatMap (block tables document) := by
  rw [List.flatMap_assoc]
  exact List.flatMap_congr fun rule _ => flatMap_reportOf_ofRule rule

/-- **The equation of an evaluation**: block after block. -/
theorem evaluate_eq (engine : Engine) (document : Document) :
    engine.evaluate document = engine.rules.flatMap (block engine.tables document) := by
  rw [← flatMap_flatMap_reportOf, evaluate]
  exact List.flatMap_congr fun invocation _ => findings_eq_reportOf _ invocation

/-! ## Evaluations that fail -/

/-- A rule raises what one of its invocations does. -/
theorem raises_iff {raised : Raised} : rule.Raises tables document raised ↔
    ∃ invocation ∈ Invocation.ofRule tables document rule,
      invocation.outcome = .error raised := by
  constructor
  · intro h
    cases h with
    | document hcheck hraised =>
      exact ⟨⟨rule, none, _⟩, by simp [Invocation.ofRule, hcheck], hraised⟩
    | @service check entry hcheck hentry hraised =>
      refine ⟨⟨rule, some entry.2.name, check entry.2 ⟨document, tables⟩⟩, ?_, hraised⟩
      simp only [Invocation.ofRule, hcheck, Table.values, List.map_map, List.mem_map]
      exact ⟨entry, hentry, rfl⟩
  · rintro ⟨invocation, hmem, hraised⟩
    unfold Invocation.ofRule at hmem
    cases hinspection : rule.inspection with
    | document check =>
      simp only [hinspection, List.mem_singleton] at hmem
      subst hmem
      exact .document hinspection hraised
    | service check =>
      simp only [hinspection, Table.values, List.map_map, List.mem_map] at hmem
      obtain ⟨entry, hentry, rfl⟩ := hmem
      exact .service hinspection hentry hraised

theorem reportable_iff : Reportable rules tables document ↔
    ∀ invocation ∈ rules.flatMap (Invocation.ofRule tables document), IsReportable invocation := by
  simp only [Reportable, raises_iff, List.mem_flatMap, IsReportable]
  grind

/-- **An evaluation comes to findings exactly where every raised value has a text**, and then it
reports block after block. -/
theorem evaluate?_eq_ok_iff (engine : Engine) (document : Document) (findings : List Finding) :
    engine.evaluate? document = .ok findings ↔
      Reportable engine.rules engine.tables document ∧
        findings = engine.rules.flatMap (block engine.tables document) := by
  rw [evaluate?, flatMapM_eq_ok_iff (findings?_eq_ok_iff document.path), reportable_iff,
    invocations, flatMap_flatMap_reportOf]

/-! ## The warnings -/

/-- Of the invocations that can be reported, those that failed warn. -/
theorem isSome_warning? {path : String} {invocation : Invocation} (h : IsReportable invocation) :
    (invocation.warning? path).isSome = hasFailed invocation.outcome := by
  unfold Invocation.warning?
  cases houtcome : invocation.outcome with
  | ok hits => rfl
  | error raised =>
    obtain ⟨reason, hreason⟩ := Raised.hasText_iff.mp (h raised houtcome)
    simp only [hreason]
    rfl

/-- And its warning is one of a failed rule. -/
theorem isFailureWarning_of_warning? {path : String} {invocation : Invocation} {record : LogRecord}
    (h : invocation.warning? path = some record) : isFailureWarning record = true := by
  unfold Invocation.warning? at h
  split at h
  · cases h
  · obtain ⟨reason, -, rfl⟩ := Option.map_eq_some_iff.mp h
    rfl

/-- Of the records of an evaluation, the warnings are those of the invocations that it reports; the
summary is none. -/
theorem filter_isFailureWarning_records (engine : Engine) (document : Document) :
    (engine.records document).filter isFailureWarning =
      (engine.reported document).filterMap (Invocation.warning? document.path) := by
  rw [records, List.filter_append, List.filter_eq_self.mpr]
  · cases engine.evaluate? document <;> exact List.append_nil _
  · intro record hrecord
    obtain ⟨invocation, -, h⟩ := List.mem_filterMap.mp hrecord
    exact isFailureWarning_of_warning? h

/-- The failed invocations of a rule. -/
theorem countP_ofRule (rule : Rule) :
    (Invocation.ofRule tables document rule).countP (fun i => hasFailed i.outcome) =
      failures tables document rule := by
  unfold Invocation.ofRule failures
  cases rule.inspection with
  | document check => simp [List.countP_cons]
  | service check =>
    simp only [Table.values, List.map_map, List.countP_map]
    rfl

/-- **As many warnings as failures**, again exactly where every raised value has a text: what has
none is a failure that no warning tells of. -/
theorem length_warnings_eq_iff (engine : Engine) (document : Document) :
    ((engine.records document).filter isFailureWarning).length =
        (engine.rules.map (failures engine.tables document)).sum ↔
      Reportable engine.rules engine.tables document := by
  have hfailures : (engine.invocations document).countP (fun i => hasFailed i.outcome) =
      (engine.rules.map (failures engine.tables document)).sum := by
    rw [invocations, List.countP_flatMap]
    exact congrArg List.sum (List.map_congr_left fun rule _ => countP_ofRule rule)
  have hwarnings : ((engine.records document).filter isFailureWarning).length =
      (engine.reported document).countP fun i => hasFailed i.outcome := by
    rw [filter_isFailureWarning_records, List.length_filterMap_eq_countP]
    refine List.countP_congr fun i hi => ?_
    rw [isSome_warning? (isOk_findings?_iff.mp (List.all_eq_true.mp List.all_takeWhile i hi))]
  rw [hwarnings, ← hfailures, reported, countP_takeWhile_eq_iff, reportable_iff]
  · exact forall₂_congr fun invocation _ => isOk_findings?_iff
  · intro invocation _ hnone
    exact hasFailed_of_not_isReportable fun h => by simp [isOk_findings?_iff.mpr h] at hnone

/-! ## Where findings come from -/

theorem of_mem_report {path : String} {service : Option String}
    {outcome : Except Raised (List Hit)} {finding : Finding}
    (h : finding ∈ report rule path service outcome) :
    finding.ruleId = rule.id ∧ finding.serviceName = service := by
  unfold report at h
  split at h
  · obtain ⟨hit, -, rfl⟩ := List.mem_map.mp h
    exact ⟨rfl, rfl⟩
  · split at h
    · rw [List.mem_singleton.mp h]
      exact ⟨rfl, rfl⟩
    · cases h

theorem ruleId_of_mem_block {finding : Finding} (h : finding ∈ block tables document rule) :
    finding.ruleId = rule.id := by
  unfold block at h
  split at h
  · exact (of_mem_report h).1
  · obtain ⟨entry, -, h⟩ := List.mem_flatMap.mp h
    exact (of_mem_report h).1

/-! ## One failure more -/

/-- A rule of a list and a service of a document, and the same rule made to fail on this service
while it is as before on all others. -/
structure Breakage (rules : List Rule) (tables : RuleTables) (document : Document) where
  rule : Rule
  before : List Rule
  after : List Rule
  rules_eq : rules = before ++ rule :: after
  entry : String × Service
  first : List (String × Service)
  last : List (String × Service)
  entries_eq : document.services.entries = first ++ entry :: last
  check : Service → RuleContext → Except Raised (List Hit)
  inspection_eq : rule.inspection = .service check
  /-- How the rule looks at services when it is broken. -/
  broken : Service → RuleContext → Except Raised (List Hit)
  raised : Raised
  broken_eq : broken entry.2 ⟨document, tables⟩ = .error raised
  agree : ∀ other ∈ first ++ last,
    broken other.2 ⟨document, tables⟩ = check other.2 ⟨document, tables⟩

namespace Breakage

variable (b : Breakage rules tables document)

/-- The broken rule. -/
def brokenRule : Rule := { b.rule with inspection := .service b.broken }

/-- The rules with the broken one in its place. -/
def brokenRules : List Rule := b.before ++ b.brokenRule :: b.after

/-- A broken rule keeps its id. -/
theorem ids_brokenRules : Rule.ids b.brokenRules = Rule.ids rules := by
  simp [brokenRules, brokenRule, Rule.ids, b.rules_eq]

/-- What the rule reports about some services. -/
def reports (entries : List (String × Service)) : List Finding :=
  entries.flatMap fun entry =>
    report b.rule document.path (some entry.2.name) (b.check entry.2 ⟨document, tables⟩)

/-- What is reported before the broken rule comes to the service. -/
def head : List Finding :=
  b.before.flatMap (block tables document) ++ b.reports b.first

/-- What is reported after that. -/
def tail : List Finding :=
  b.reports b.last ++ b.after.flatMap (block tables document)

/-- Before the rule is broken, the report about the service stands between head and tail. -/
theorem flatMap_block :
    rules.flatMap (block tables document) =
      b.head ++ report b.rule document.path (some b.entry.2.name)
        (b.check b.entry.2 ⟨document, tables⟩) ++ b.tail := by
  have hblock : block tables document b.rule = b.reports document.services.entries := by
    rw [block, b.inspection_eq]; rfl
  conv_lhs => rw [b.rules_eq]
  rw [List.flatMap_append, List.flatMap_cons, hblock, b.entries_eq]
  simp only [reports, head, tail, List.flatMap_append, List.flatMap_cons, List.append_assoc]

/-- The invocation of the broken rule on a service. -/
def invocation (entry : String × Service) : Invocation :=
  ⟨b.brokenRule, some entry.2.name, b.broken entry.2 ⟨document, tables⟩⟩

/-- On the other services the broken rule reports what it did. -/
theorem flatMap_reportOf_invocation {entries : List (String × Service)}
    (h : entries ⊆ b.first ++ b.last) :
    (entries.map b.invocation).flatMap (reportOf document.path) = b.reports entries := by
  rw [List.flatMap_map]
  refine List.flatMap_congr fun entry hentry => ?_
  rw [reportOf, invocation, b.agree entry (h hentry)]
  rfl

theorem others_subset_rules : b.before ++ b.after ⊆ rules := by
  conv_rhs => rw [b.rules_eq]
  exact ((List.sublist_cons_self _ _).append_left _).subset

theorem others_subset_entries : b.first ++ b.last ⊆ document.services.entries := by
  rw [b.entries_eq]
  exact ((List.sublist_cons_self _ _).append_left _).subset

theorem rule_mem_rules : b.rule ∈ rules := by
  conv => arg 1; rw [b.rules_eq]
  exact List.mem_append_right _ (List.mem_cons_self ..)

/-- Neither the other rules nor the broken rule on the other services raise anything new. -/
theorem isReportable_others (h : Reportable rules tables document) {others : List Rule}
    {entries : List (String × Service)} (hothers : others ⊆ b.before ++ b.after)
    (hentries : entries ⊆ b.first ++ b.last) {invocation : Invocation}
    (hmem : invocation ∈ others.flatMap (Invocation.ofRule tables document) ++
      entries.map b.invocation) : IsReportable invocation := by
  rcases List.mem_append.mp hmem with hmem | hmem
  · have hsubset := List.Subset.trans hothers b.others_subset_rules
    exact reportable_iff.mp (fun rule hrule => h rule (hsubset hrule)) invocation hmem
  · obtain ⟨entry, hentry, rfl⟩ := List.mem_map.mp hmem
    intro raised hraised
    have hother := hentries hentry
    exact h b.rule b.rule_mem_rules raised (.service b.inspection_eq
      (b.others_subset_entries hother) ((b.agree entry hother).symm.trans hraised))

/-- The invocations of the rules with the broken one among them. -/
theorem flatMap_ofRule_brokenRules :
    b.brokenRules.flatMap (Invocation.ofRule tables document) =
      (b.before.flatMap (Invocation.ofRule tables document) ++ b.first.map b.invocation) ++
        b.invocation b.entry :: (b.last.map b.invocation ++
          b.after.flatMap (Invocation.ofRule tables document)) := by
  have hrule : Invocation.ofRule tables document b.brokenRule =
      document.services.entries.map b.invocation := by
    rw [← Function.comp_id b.invocation]
    exact List.map_map ..
  unfold brokenRules
  rw [List.flatMap_append, List.flatMap_cons, hrule, b.entries_eq]
  simp

/-- **Afterwards one error stands there**, if there is a text of what is raised. -/
theorem evaluate?_brokenRules (h : Reportable rules tables document)
    (distinct : (Rule.ids b.brokenRules).Nodup) :
    (⟨b.brokenRules, tables, distinct⟩ : Engine).evaluate? document =
      b.raised.text.map fun reason =>
        b.head ++ [failureReport b.rule document.path (some b.entry.2.name) reason] ++ b.tail := by
  have hfirst := List.subset_append_left b.first b.last
  have hlast := List.subset_append_right b.first b.last
  have hentry : (b.invocation b.entry).findings? document.path = b.raised.text.map fun reason =>
      [failureReport b.rule document.path (some b.entry.2.name) reason] := by
    rw [invocation, b.broken_eq]
    rfl
  rw [evaluate?, invocations, flatMap_ofRule_brokenRules,
    flatMapM_append_cons (findings?_eq_ok_iff document.path), hentry]
  · simp only [List.flatMap_append, flatMap_flatMap_reportOf,
      b.flatMap_reportOf_invocation hfirst, b.flatMap_reportOf_invocation hlast]
    cases b.raised.text <;> rfl
  · exact fun invocation => b.isReportable_others h (List.subset_append_left ..) hfirst
  · refine fun invocation hmem => b.isReportable_others h (List.subset_append_right ..) hlast ?_
    exact List.perm_append_comm.mem_iff.mp hmem

/-- Where no other service has the name of this one, head and tail say nothing of the rule on the
service. -/
theorem serviceName_ne {finding : Finding} (distinct : (Rule.ids rules).Nodup)
    (hnames : ∀ other ∈ b.first ++ b.last, other.2.name ≠ b.entry.2.name)
    (hmem : finding ∈ b.head ++ b.tail) (hrule : finding.ruleId = b.rule.id) :
    finding.serviceName ≠ some b.entry.2.name := by
  have hdistinct : ∀ other ∈ b.before ++ b.after, other.id ≠ b.rule.id := by
    rw [b.rules_eq, Rule.ids, List.map_append, List.map_cons, List.nodup_middle,
      List.nodup_cons] at distinct
    intro other hother heq
    exact distinct.1 (by rw [← List.map_append, ← heq]; exact List.mem_map_of_mem hother)
  have hblock : finding ∉ (b.before ++ b.after).flatMap (block tables document) := by
    intro h
    obtain ⟨other, hother, h⟩ := List.mem_flatMap.mp h
    exact hdistinct other hother ((ruleId_of_mem_block h).symm.trans hrule)
  have hreports : finding ∈ b.reports (b.first ++ b.last) := by
    simp only [head, tail, reports, List.flatMap_append, List.mem_append] at hmem hblock ⊢
    tauto
  obtain ⟨other, hother, h⟩ := List.mem_flatMap.mp hreports
  rw [(of_mem_report h).2]
  exact fun heq => hnames other hother (Option.some.inj heq)

end Breakage

/-- A document of two privileged services. -/
def twoServices : Document where
  path := "compose.yml"
  services := .ofList [("web", { name := "web", privileged := true }),
    ("db", { name := "db", privileged := true })]
  networks := .empty
  volumes := []

/-- The rule on privileged services, raising a value when it comes to the second of them. -/
def secondBreaks (raised : Raised) :
    Breakage [Rule.hostNetwork, Rule.privilegedMode] RuleTables.standard twoServices where
  rule := Rule.privilegedMode
  before := [Rule.hostNetwork]
  after := []
  rules_eq := rfl
  entry := ("db", { name := "db", privileged := true })
  first := [("web", { name := "web", privileged := true })]
  last := []
  entries_eq := rfl
  check := fun service _ =>
    .ok (Rule.hitIf service.privileged .high (Rule.about service "runs in privileged mode"))
  inspection_eq := rfl
  broken := fun service _ =>
    if service.name = "db" then .error raised
    else .ok [⟨.high, "Service 'web' runs in privileged mode"⟩]
  raised := raised
  broken_eq := rfl
  agree := by
    intro other hother
    rw [List.append_nil, List.mem_singleton] at hother
    subst hother
    rfl

/-- An object that gives neither a JSON text nor a text of itself: its methods raise errors. -/
def textless : Raised :=
  .foreign (.error (.cause (.error "no JSON text"))) (.error (.cause (.error "no text")))

end Engine

end ComposeLint
