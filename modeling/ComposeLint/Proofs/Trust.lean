import ComposeLint.Proofs.Locality
import Mathlib.Data.List.Flatten
import Mathlib.Data.List.Perm.Basic

/-!
# Trusting further registries

A run may trust further registries (`RuleTables.trusting`). One rule of the catalog looks at them
(`Rule.ignoresRegistries_of_mem_allRules`), and it looks at which there are and not at their order
(`Rule.isTrusted_iff`). So the findings with further registries are those without them, less what
was reported about the services that one of them vouches for (`Engine.excused`), and of what is
listed only the set of names counts.
-/

namespace ComposeLint

/-! ## Registries -/

/-- Whether a registry, in small letters, is a host or lies below it. -/
def Covers (host registry : List Char) : Prop :=
  registry = host ∨ ('.' :: host) <:+ registry

instance (host registry : List Char) : Decidable (Covers host registry) :=
  inferInstanceAs (Decidable (_ ∨ _))

/-- Whether one of some listed registries covers a registry. What is listed is taken without the
blanks around it and in small letters, and where this leaves nothing it covers nothing. -/
def Vouches (registries : List String) (registry : String) : Prop :=
  ∃ listed ∈ registries, Text.lower (Text.trim listed.toList) ≠ [] ∧
    Covers (Text.lower (Text.trim listed.toList)) (Text.lower registry.toList)

instance (registries : List String) (registry : String) : Decidable (Vouches registries registry) :=
  inferInstanceAs (Decidable (∃ _ ∈ registries, _))

namespace RuleTables

variable {tables : RuleTables} {registries : List String} {name : String}

theorem mem_registryNames_iff : name ∈ registryNames registries ↔
    ∃ listed ∈ registries, Text.lower (Text.trim listed.toList) ≠ [] ∧
      name.toList = Text.lower (Text.trim listed.toList) := by
  simp only [registryNames, List.mem_filter, List.mem_map, bne_iff_ne, ne_eq]
  constructor
  · rintro ⟨⟨listed, hlisted, rfl⟩, hname⟩
    rw [String.toList_ofList]
    exact ⟨listed, hlisted, fun hnil => hname (by rw [hnil]), rfl⟩
  · rintro ⟨listed, hlisted, hne, hname⟩
    refine ⟨⟨listed, hlisted, by rw [← hname, String.ofList_toList]⟩, fun hempty => hne ?_⟩
    rw [← hname, hempty]
    rfl

theorem registryNames_append (a b : List String) :
    registryNames (a ++ b) = registryNames a ++ registryNames b := by
  simp only [registryNames, List.map_append, List.filter_append]

/-- **Further registries are trusted besides the others.** -/
theorem mem_trusting_iff : name ∈ (tables.trusting registries).trustedRegistries ↔
    name ∈ tables.trustedRegistries ∨ name ∈ registryNames registries := by
  rw [trusting]
  cases registryNames registries with
  | nil => simp
  | cons first names => simp [List.mem_eraseDups]

/-- The tables but for the registries. -/
def withoutRegistries (tables : RuleTables) : RuleTables := { tables with trustedRegistries := [] }

/-- Nothing else changes in the tables. -/
theorem withoutRegistries_trusting (tables : RuleTables) (registries : List String) :
    (tables.trusting registries).withoutRegistries = tables.withoutRegistries := by
  rw [trusting]
  cases registryNames registries <;> rfl

end RuleTables

/-! ## The rule that looks at registries -/

namespace Rule

variable {rule : Rule} {tables tables' : RuleTables} {registries : List String} {registry : String}
variable {service : Service}

theorem isTrusted_iff : isTrusted tables registry = true ↔
    ∃ trusted ∈ tables.trustedRegistries,
      Covers trusted.toList (Text.lower registry.toList) := by
  simp only [isTrusted, List.any_eq_true, Bool.or_eq_true, beq_iff_eq, List.isSuffixOf_iff_suffix,
    Covers]

/-- **What is trusted with further registries** was trusted before, or one of them vouches for it.
-/
theorem isTrusted_trusting_iff : isTrusted (tables.trusting registries) registry = true ↔
    isTrusted tables registry = true ∨ Vouches registries registry := by
  simp only [isTrusted_iff, RuleTables.mem_trusting_iff, or_and_right, exists_or, Vouches]
  refine or_congr_right ⟨?_, ?_⟩
  · rintro ⟨trusted, hname, hcovers⟩
    obtain ⟨listed, hlisted, hne, heq⟩ := RuleTables.mem_registryNames_iff.mp hname
    exact ⟨listed, hlisted, hne, heq ▸ hcovers⟩
  · rintro ⟨listed, hlisted, hne, hcovers⟩
    refine ⟨String.ofList (Text.lower (Text.trim listed.toList)), ?_, ?_⟩
    · exact RuleTables.mem_registryNames_iff.mpr ⟨listed, hlisted, hne, String.toList_ofList⟩
    · rwa [String.toList_ofList]

theorem isTrusted_congr
    (h : ∀ name, name ∈ tables'.trustedRegistries ↔ name ∈ tables.trustedRegistries) :
    isTrusted tables' registry = isTrusted tables registry := by
  rw [Bool.eq_iff_iff]
  simp only [isTrusted_iff, h]

theorem untrustedRegistry_mem_allRules : untrustedRegistry ∈ allRules := by
  simp [allRules, securityRules]

/-- Whether a rule reports the same whatever registries are trusted. -/
def IgnoresRegistries (rule : Rule) : Prop :=
  ∀ (tables : RuleTables) (document : Document),
    Engine.block tables.withoutRegistries document rule = Engine.block tables document rule

/-- **Every rule but one does.** -/
theorem ignoresRegistries_of_mem_allRules (h : rule ∈ allRules)
    (hid : rule.id ≠ untrustedRegistry.id) : rule.IgnoresRegistries := by
  have hall : ∀ rule ∈ allRules, rule.id = untrustedRegistry.id ∨ rule.IgnoresRegistries := by
    simp only [allRules, securityRules, bestPracticeRules, List.cons_append, List.nil_append,
      List.forall_mem_cons, List.not_mem_nil, false_imp_iff, implies_true, and_true]
    refine ⟨?_, ?_, ?_, ?_, ?_, ?_, ?_, ?_, ?_, ?_, ?_, ?_, ?_, ?_, .inl trivial, ?_, ?_⟩
    all_goals exact .inr fun _ _ => rfl
  exact (hall rule h).resolve_left hid

end Rule

/-! ## What is excused -/

namespace Engine

variable {tables tables' : RuleTables} {document : Document} {rule : Rule} {rules : List Rule}
variable {registries : List String} {path : String} {service : Service}

/-- Whether one of some listed registries vouches for the image of a service. -/
def VouchedFor (registries : List String) (service : Service) : Prop :=
  ∃ registry ∈ service.image.bind (·.registry), Vouches registries registry

instance (registries : List String) (service : Service) :
    Decidable (VouchedFor registries service) :=
  inferInstanceAs (Decidable (∃ registry ∈ service.image.bind (·.registry), _))

/-- **A service that is vouched for is not reported**, and any other one as before. -/
theorem reportAlone_trusting :
    reportAlone (tables.trusting registries) path Rule.untrustedRegistry service =
      if VouchedFor registries service then []
      else reportAlone tables path Rule.untrustedRegistry service := by
  simp only [reportAlone, Rule.untrustedRegistry, Rule.perService, VouchedFor, Option.mem_def]
  cases hregistry : service.image.bind (·.registry) with
  | none => simp
  | some registry =>
    simp only [Option.some.injEq, exists_eq_left']
    by_cases hvouches : Vouches registries registry
    · have htrusted : Rule.isTrusted (tables.trusting registries) registry = true :=
        Rule.isTrusted_trusting_iff.mpr (.inr hvouches)
      rw [if_pos hvouches, htrusted, Bool.not_true, Bool.and_false]
      rfl
    -- A registry that nobody vouches for is trusted if it was trusted before.
    · have htrusted : Rule.isTrusted (tables.trusting registries) registry =
          Rule.isTrusted tables registry := by
        rw [Bool.eq_iff_iff, Rule.isTrusted_trusting_iff, or_iff_left hvouches]
      rw [if_neg hvouches, htrusted]

theorem reportAlone_untrustedRegistry_congr
    (h : ∀ name, name ∈ tables'.trustedRegistries ↔ name ∈ tables.trustedRegistries) :
    reportAlone tables' path Rule.untrustedRegistry service =
      reportAlone tables path Rule.untrustedRegistry service := by
  simp only [reportAlone, Rule.untrustedRegistry, Rule.perService, Rule.isTrusted_congr h]

theorem block_untrustedRegistry : block tables document Rule.untrustedRegistry =
    document.services.values.flatMap
      (reportAlone tables document.path Rule.untrustedRegistry) := by
  rw [Table.values, List.flatMap_map]
  rfl

/-- Items of which nothing is collected may be left out. -/
theorem flatMap_filter_not {α β : Type} (p : α → Prop) [DecidablePred p] (f : α → List β)
    (xs : List α) :
    ((xs.filter fun x => ¬ p x).flatMap f) = xs.flatMap fun x => if p x then [] else f x := by
  induction xs with
  | nil => rfl
  | cons x xs ih =>
    rw [List.filter_cons, List.flatMap_cons, ← ih]
    by_cases hx : p x
    · rw [if_pos hx, if_neg (by simpa using hx), List.nil_append]
    · rw [if_neg hx, if_pos (by simpa using hx), List.flatMap_cons]

/-- **With further registries, what is left is reported about services that no one vouches for.** -/
theorem block_trusting_untrustedRegistry :
    block (tables.trusting registries) document Rule.untrustedRegistry =
      (document.services.values.filter fun service => ¬ VouchedFor registries service).flatMap
        (reportAlone tables document.path Rule.untrustedRegistry) := by
  rw [block_untrustedRegistry, flatMap_filter_not]
  exact List.flatMap_congr fun service _ => reportAlone_trusting

/-- A rule that looks at no registries reports the same by tables that agree otherwise. -/
theorem block_congr_of_ne (h : rule ∈ Rule.allRules) (hid : rule.id ≠ Rule.untrustedRegistry.id)
    (hrest : tables'.withoutRegistries = tables.withoutRegistries) :
    block tables' document rule = block tables document rule := by
  have hignores := Rule.ignoresRegistries_of_mem_allRules h hid
  rw [← hignores tables', hrest, hignores tables]

/-- **What a rule reports depends on which registries are trusted**, and not on their order. -/
theorem block_congr (h : rule ∈ Rule.allRules)
    (hrest : tables'.withoutRegistries = tables.withoutRegistries)
    (hmem : ∀ name, name ∈ tables'.trustedRegistries ↔ name ∈ tables.trustedRegistries) :
    block tables' document rule = block tables document rule := by
  by_cases hid : rule.id = Rule.untrustedRegistry.id
  · obtain rfl := Rule.eq_of_id_eq h Rule.untrustedRegistry_mem_allRules hid
    rw [block_untrustedRegistry, block_untrustedRegistry]
    exact List.flatMap_congr fun service _ => reportAlone_untrustedRegistry_congr hmem
  · exact block_congr_of_ne h hid hrest

/-- The engine with further trusted registries. -/
def trusting (engine : Engine) (registries : List String) : Engine :=
  { engine with tables := engine.tables.trusting registries }

/-- What a rule reports about images that come from an untrusted registry although one of some
listed registries vouches for them. -/
def excusedBlock (tables : RuleTables) (registries : List String) (document : Document)
    (rule : Rule) : List Finding :=
  if rule.id = "untrusted-registry" then
    (document.services.values.filter (VouchedFor registries)).flatMap
      (reportAlone tables document.path rule)
  else []

/-- The findings of an engine that further registries excuse. -/
def excused (engine : Engine) (registries : List String) (document : Document) : List Finding :=
  engine.rules.flatMap (excusedBlock engine.tables registries document)

theorem block_trusting_sublist (h : rule ∈ Rule.allRules) :
    (block (tables.trusting registries) document rule).Sublist (block tables document rule) := by
  by_cases hid : rule.id = Rule.untrustedRegistry.id
  · obtain rfl := Rule.eq_of_id_eq h Rule.untrustedRegistry_mem_allRules hid
    rw [block_trusting_untrustedRegistry, block_untrustedRegistry]
    exact List.filter_sublist.flatMap _
  · rw [block_congr_of_ne h hid (tables.withoutRegistries_trusting registries)]

/-- **What is missing is excused.** -/
theorem block_perm_trusting (h : rule ∈ Rule.allRules) :
    (block tables document rule).Perm (block (tables.trusting registries) document rule ++
      excusedBlock tables registries document rule) := by
  by_cases hid : rule.id = Rule.untrustedRegistry.id
  · obtain rfl := Rule.eq_of_id_eq h Rule.untrustedRegistry_mem_allRules hid
    have hexcused : excusedBlock tables registries document Rule.untrustedRegistry =
        (document.services.values.filter (VouchedFor registries)).flatMap
          (reportAlone tables document.path Rule.untrustedRegistry) := if_pos rfl
    rw [block_trusting_untrustedRegistry, block_untrustedRegistry, hexcused,
      ← List.flatMap_append]
    refine .flatMap_right _ (.trans ?_ List.perm_append_comm)
    simpa using (List.filter_append_perm (VouchedFor registries) document.services.values).symm
  · have hexcused : excusedBlock tables registries document rule = [] := if_neg hid
    rw [block_congr_of_ne h hid (tables.withoutRegistries_trusting registries), hexcused,
      List.append_nil]

/-! ## Evaluations -/

variable {engine engine' : Engine}

/-- Only the set of trusted registries counts. -/
theorem evaluate_congr (h : engine.rules ⊆ Rule.allRules) (hrules : engine'.rules = engine.rules)
    (hrest : engine'.tables.withoutRegistries = engine.tables.withoutRegistries)
    (hmem : ∀ name, name ∈ engine'.tables.trustedRegistries ↔
      name ∈ engine.tables.trustedRegistries) :
    engine'.evaluate document = engine.evaluate document := by
  rw [evaluate_eq, evaluate_eq, hrules]
  exact List.flatMap_congr fun rule hrule => block_congr (h hrule) hrest hmem

theorem evaluate_trusting_sublist (h : engine.rules ⊆ Rule.allRules) :
    ((engine.trusting registries).evaluate document).Sublist (engine.evaluate document) := by
  rw [evaluate_eq, evaluate_eq]
  exact List.Sublist.flatMap_right _ fun rule hrule => block_trusting_sublist (h hrule)

theorem evaluate_perm_trusting (h : engine.rules ⊆ Rule.allRules) :
    (engine.evaluate document).Perm ((engine.trusting registries).evaluate document ++
      engine.excused registries document) := by
  rw [evaluate_eq, evaluate_eq, excused]
  exact (List.Perm.flatMap_left _ fun rule hrule => block_perm_trusting (h hrule)).trans
    (List.flatMap_append_perm ..).symm

/-- **Further registries excuse what they vouch for, and nothing else.** Rules that are picked from
the catalog once each make an engine, and so they do with further trusted registries.

- With further registries a part of the findings is left, in their order. What is missing is what
  was reported about untrusted registries for services that one of them vouches for.
- It does not matter whether they are listed at once or in two steps.
- It does not matter how often and in which order they are listed. -/
theorem evaluate_trusting (tables : RuleTables) (hcatalog : rules ⊆ Rule.allRules)
    (hnodup : rules.Nodup) :
    ∃ engine, create? rules tables = .ok engine ∧
      (∀ registries,
        create? rules (tables.trusting registries) = .ok (engine.trusting registries)) ∧
      ∀ document,
        (∀ registries,
          ((engine.trusting registries).evaluate document).Sublist (engine.evaluate document) ∧
          (engine.evaluate document).Perm ((engine.trusting registries).evaluate document ++
            engine.excused registries document)) ∧
        (∀ first second,
          ((engine.trusting first).trusting second).evaluate document =
            (engine.trusting (first ++ second)).evaluate document) ∧
        ∀ registries registries', (∀ listed, listed ∈ registries' ↔ listed ∈ registries) →
          (engine.trusting registries').evaluate document =
            (engine.trusting registries).evaluate document := by
  have hdistinct := Rule.nodup_ids hcatalog hnodup
  refine ⟨⟨rules, tables, hdistinct⟩, create?_eq hdistinct, fun _ => create?_eq hdistinct,
    fun document => ⟨fun registries => ?_, fun first second => ?_, ?_⟩⟩
  · exact ⟨evaluate_trusting_sublist hcatalog, evaluate_perm_trusting hcatalog⟩
  · refine evaluate_congr hcatalog rfl ?_ fun name => ?_
    · simp only [trusting, RuleTables.withoutRegistries_trusting]
    · simp only [trusting, RuleTables.mem_trusting_iff, RuleTables.registryNames_append,
        List.mem_append, or_assoc]
  · intro registries registries' hlisted
    refine evaluate_congr hcatalog rfl ?_ fun name => ?_
    · simp only [trusting, RuleTables.withoutRegistries_trusting]
    · simp only [trusting, RuleTables.mem_trusting_iff, RuleTables.mem_registryNames_iff, hlisted]

/-- Services whose images come from a registry below a host, and from one whose name only ends like
the host. -/
def twoRegistries : Document where
  path := "compose.yml"
  services := .ofList
    [("web", { name := "web", image := some (.parse "hub.ACME.io/web:1") }),
      ("db", { name := "db", image := some (.parse "notacme.io/db:1"), privileged := true })]
  networks := .empty
  volumes := []

/-- Only the first service is excused, whatever blanks and capitals the host is listed with. -/
theorem evaluate_trusting_twoRegistries :
    [Rule.untrustedRegistry, Rule.privilegedMode] ⊆ Rule.allRules ∧
    [Rule.untrustedRegistry, Rule.privilegedMode].Nodup ∧
    ∃ engine, create? [Rule.untrustedRegistry, Rule.privilegedMode] .standard = .ok engine ∧
      ((engine.trusting [" Acme.io", " "]).evaluate twoRegistries).Sublist
        (engine.evaluate twoRegistries) ∧
      (engine.trusting ["acme.io", " Acme.io", " "]).evaluate twoRegistries =
        ((engine.trusting [" Acme.io", " "]).trusting ["acme.io"]).evaluate twoRegistries ∧
      (engine.evaluate twoRegistries).map (fun finding => (finding.ruleId, finding.serviceName)) =
        [("untrusted-registry", some "web"), ("untrusted-registry", some "db"),
          ("privileged-mode", some "db")] ∧
      (engine.excused [" Acme.io", " "] twoRegistries).map (·.serviceName) = [some "web"] ∧
      ((engine.trusting [" Acme.io", " "]).evaluate twoRegistries).map
          (fun finding => (finding.ruleId, finding.serviceName)) =
        [("untrusted-registry", some "db"), ("privileged-mode", some "db")] := by
  have hcatalog : [Rule.untrustedRegistry, Rule.privilegedMode] ⊆ Rule.allRules := by
    simp [Rule.allRules, Rule.securityRules]
  have hnodup : [Rule.untrustedRegistry, Rule.privilegedMode].Nodup :=
    List.Nodup.of_map Rule.id (by decide)
  obtain ⟨engine, hcreate, -, h⟩ := evaluate_trusting .standard hcatalog hnodup
  obtain ⟨hless, htwice, hset⟩ := h twoRegistries
  have horder : ∀ listed, listed ∈ ["acme.io", " Acme.io", " "] ↔
      listed ∈ [" Acme.io", " "] ++ ["acme.io"] := by
    simp [or_comm, or_left_comm]
  obtain rfl := Except.ok.inj (hcreate.symm.trans (create?_eq (by decide)))
  exact ⟨hcatalog, hnodup, _, hcreate, (hless _).1, (hset _ _ horder).trans (htwice _ _).symm,
    by decide +kernel, by decide +kernel, by decide +kernel⟩

end Engine

end ComposeLint
