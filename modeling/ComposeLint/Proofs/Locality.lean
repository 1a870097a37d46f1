import ComposeLint.Proofs.Isolation
import Mathlib.Data.List.Perm.Basic

/-!
# Rules look at one thing at a time

A rule is given the whole document, and no rule of the catalog makes use of it: one that looks at
services looks at one of them and the tables, and one that looks at the document looks at its
networks (`Rule.IsLocal`). So the findings of an evaluation fall into two parts: those about the
document depend on its networks only (`Engine.documentFindings_congr`), and those about services are
collected service by service (`Engine.servicePart_eq`). The order of rules and services decides the
order of the findings, and services of two documents may be put together
(`Engine.evaluate_perm_unites`).
-/

namespace ComposeLint

/-! ## Rules of the catalog -/

namespace Rule

variable {rule other : Rule}

/-- Whether a rule looks at nothing but what it is about. -/
inductive IsLocal (rule : Rule) : Prop
  | service (check : Service → RuleTables → List Hit) :
      rule.inspection = perService check → IsLocal rule
  | document (check : RuleContext → Except Raised (List Hit)) :
      rule.inspection = .document check →
        (∀ context context' : RuleContext, context'.document.networks = context.document.networks →
          context'.tables = context.tables → check context' = check context) →
        IsLocal rule

/-- **Every rule of the catalog does.** -/
theorem isLocal_of_mem_allRules (h : rule ∈ allRules) : rule.IsLocal := by
  obtain rfl | ⟨check, hcheck⟩ := eq_externalNetworks_or h
  · exact .document _ rfl fun _ _ hnetworks _ => by rw [hnetworks]
  · exact .service check hcheck

/-- Among the rules of the catalog, an id is the id of one. -/
theorem eq_of_id_eq (hrule : rule ∈ allRules) (hother : other ∈ allRules)
    (h : rule.id = other.id) : rule = other :=
  List.inj_on_of_nodup_map (Engine.selected true .standard).distinct hrule hother h

theorem mem_allRules_of_mem_selected {bestPractices : Bool} (h : rule ∈ selected bestPractices) :
    rule ∈ allRules := by
  cases bestPractices with
  | false => exact List.mem_append_left _ h
  | true => exact h

/-- So rules that are picked from the catalog once each have distinct ids. -/
theorem nodup_ids {rules : List Rule} (hcatalog : rules ⊆ allRules) (hnodup : rules.Nodup) :
    (ids rules).Nodup :=
  hnodup.map_on fun _ hrule _ hother => eq_of_id_eq (hcatalog hrule) (hcatalog hother)

end Rule

/-! ## Two kinds of findings -/

namespace Engine

variable {tables : RuleTables} {document document' : Document} {rule : Rule} {rules : List Rule}

/-- What a rule reports about a document as a whole. -/
def documentPart (tables : RuleTables) (document : Document) (rule : Rule) : List Finding :=
  match rule.inspection with
  | .document check => report rule document.path none (check ⟨document, tables⟩)
  | .service _ => []

/-- What a rule reports about the services of a document. -/
def servicePart (tables : RuleTables) (document : Document) (rule : Rule) : List Finding :=
  match rule.inspection with
  | .document _ => []
  | .service check =>
    document.services.entries.flatMap fun entry =>
      report rule document.path (some entry.2.name) (check entry.2 ⟨document, tables⟩)

/-- What a rule reports about a service that stands in an otherwise empty document. -/
def reportAlone (tables : RuleTables) (path : String) (rule : Rule) (service : Service) :
    List Finding :=
  match rule.inspection with
  | .document _ => []
  | .service check => report rule path (some service.name) (check service ⟨.empty path, tables⟩)

/-- The findings about a document as a whole. -/
def documentFindings (engine : Engine) (document : Document) : List Finding :=
  engine.rules.flatMap (documentPart engine.tables document)

/-- The findings about the services of a document. -/
def serviceFindings (engine : Engine) (document : Document) : List Finding :=
  engine.rules.flatMap (servicePart engine.tables document)

/-- **A rule reports about the document or about services**, and never about both. -/
theorem block_eq_append : block tables document rule =
    documentPart tables document rule ++ servicePart tables document rule := by
  unfold block documentPart servicePart
  cases rule.inspection with
  | document check => exact (List.append_nil _).symm
  | service check => exact (List.nil_append _).symm

/-- **So the findings are of two kinds.** -/
theorem evaluate_perm_append (engine : Engine) (document : Document) :
    (engine.evaluate document).Perm
      (engine.documentFindings document ++ engine.serviceFindings document) := by
  rw [evaluate_eq, List.flatMap_congr fun rule _ => block_eq_append]
  exact (List.flatMap_append_perm ..).symm

/-! ## What they depend on -/

theorem documentPart_congr (h : rule.IsLocal) (hpath : document'.path = document.path)
    (hnetworks : document'.networks = document.networks) :
    documentPart tables document' rule = documentPart tables document rule := by
  cases h with
  | service check hcheck => rw [documentPart, documentPart, hcheck]; rfl
  | document check hcheck hlocal =>
    simp only [documentPart, hcheck, hpath, hlocal ⟨document, tables⟩ ⟨document', tables⟩ hnetworks]

/-- **What is reported about a service is what would be reported if it stood alone.** -/
theorem servicePart_eq (h : rule.IsLocal) : servicePart tables document rule =
    document.services.entries.flatMap fun entry =>
      reportAlone tables document.path rule entry.2 := by
  unfold servicePart reportAlone
  cases h with
  | service check hcheck => rw [hcheck]; rfl
  | document check hcheck => rw [hcheck]; simp

/-- **The findings about a document** depend on its path and its networks. -/
theorem documentFindings_congr {engine : Engine} (h : ∀ rule ∈ engine.rules, rule.IsLocal)
    (hpath : document'.path = document.path) (hnetworks : document'.networks = document.networks) :
    engine.documentFindings document' = engine.documentFindings document :=
  List.flatMap_congr fun rule hrule => documentPart_congr (h rule hrule) hpath hnetworks

/-! ## Order -/

/-- The same services in another order; what else is in a document does not matter to findings. -/
structure Reordered (document document' : Document) : Prop where
  path : document'.path = document.path
  networks : document'.networks = document.networks
  services : document'.services.entries.Perm document.services.entries

theorem block_perm (h : rule.IsLocal) (hordered : Reordered document document') :
    (block tables document' rule).Perm (block tables document rule) := by
  rw [block_eq_append, block_eq_append, servicePart_eq h, servicePart_eq h,
    documentPart_congr h hordered.path hordered.networks, hordered.path]
  exact (hordered.services.flatMap_right _).append_left _

/-- **The order of rules and services does not matter.** -/
theorem evaluate_perm {engine engine' : Engine} (h : ∀ rule ∈ engine.rules, rule.IsLocal)
    (hrules : engine'.rules.Perm engine.rules) (htables : engine'.tables = engine.tables)
    (hordered : Reordered document document') :
    (engine'.evaluate document').Perm (engine.evaluate document) := by
  rw [evaluate_eq, evaluate_eq, htables]
  exact hrules.flatMap fun rule hrule => block_perm (h rule (hrules.subset hrule)) hordered

/-! ## Services of two documents -/

/-- A document that holds the services of two documents, which are named differently, and is like
them in what else matters to findings. -/
structure Unites (both first second : Document) : Prop where
  path : first.path = both.path ∧ second.path = both.path
  networks : first.networks = both.networks ∧ second.networks = both.networks
  disjoint : first.services.names.Disjoint second.services.names
  services : both.services.entries.Perm (first.services.entries ++ second.services.entries)

variable {both first second : Document}

theorem Unites.symm (h : Unites both first second) : Unites both second first :=
  ⟨h.path.symm, h.networks.symm, List.disjoint_symm h.disjoint,
    h.services.trans List.perm_append_comm⟩

theorem servicePart_perm_unites (h : rule.IsLocal) (hunites : Unites both first second) :
    (servicePart tables both rule).Perm
      (servicePart tables first rule ++ servicePart tables second rule) := by
  rw [servicePart_eq h, servicePart_eq h, servicePart_eq h, hunites.path.1, hunites.path.2,
    ← List.flatMap_append]
  exact hunites.services.flatMap_right _

/-- **What is found about the services of both is what is found about those of each.** -/
theorem serviceFindings_perm_unites {engine : Engine} (h : ∀ rule ∈ engine.rules, rule.IsLocal)
    (hunites : Unites both first second) :
    (engine.serviceFindings both).Perm
      (engine.serviceFindings first ++ engine.serviceFindings second) :=
  (List.Perm.flatMap_left _ fun rule hrule => servicePart_perm_unites (h rule hrule) hunites).trans
    (List.flatMap_append_perm ..).symm

/-- **Findings do not depend on order, and services do not depend on each other.** Rules that are
picked from the catalog once each make an engine.

- Another order of the rules and of the services gives the same findings in another order.
- What is found in a document that holds the services of two is what is found in each of them, with
  the findings about the document as a whole, which are the same in all three, taken once. -/
theorem evaluate_perm_unites (tables : RuleTables) (hcatalog : rules ⊆ Rule.allRules)
    (hnodup : rules.Nodup) :
    ∃ engine, create? rules tables = .ok engine ∧
      (∀ rules' document document', rules'.Perm rules → Reordered document document' →
        ∃ engine', create? rules' tables = .ok engine' ∧
          (engine'.evaluate document').Perm (engine.evaluate document)) ∧
      ∀ both first second, Unites both first second →
        engine.documentFindings first = engine.documentFindings both ∧
        engine.documentFindings second = engine.documentFindings both ∧
        (engine.evaluate both ++ engine.documentFindings both).Perm
          (engine.evaluate first ++ engine.evaluate second) := by
  have hlocal : ∀ rule ∈ rules, rule.IsLocal := fun rule hrule =>
    Rule.isLocal_of_mem_allRules (hcatalog hrule)
  have hdistinct := Rule.nodup_ids hcatalog hnodup
  refine ⟨⟨rules, tables, hdistinct⟩, create?_eq hdistinct, ?_, ?_⟩
  · intro rules' document document' hrules hordered
    have hdistinct' : (Rule.ids rules').Nodup := (hrules.map _).nodup_iff.mpr hdistinct
    exact ⟨_, create?_eq hdistinct', evaluate_perm hlocal hrules rfl hordered⟩
  · intro both first second hunites
    generalize hengine : (⟨rules, tables, hdistinct⟩ : Engine) = engine
    replace hlocal : ∀ rule ∈ engine.rules, rule.IsLocal := hengine ▸ hlocal
    have hfirst : engine.documentFindings first = engine.documentFindings both :=
      documentFindings_congr hlocal hunites.path.1 hunites.networks.1
    have hsecond : engine.documentFindings second = engine.documentFindings both :=
      documentFindings_congr hlocal hunites.path.2 hunites.networks.2
    refine ⟨hfirst, hsecond, ?_⟩
    have hboth := (engine.evaluate_perm_append both).trans
      ((serviceFindings_perm_unites hlocal hunites).append_left _)
    have hparts := (engine.evaluate_perm_append first).append (engine.evaluate_perm_append second)
    rw [hfirst, hsecond] at hparts
    -- On either side stand the findings about the document, twice, and those about the services.
    refine (hboth.append_right _).trans (.trans ?_ hparts.symm)
    rw [List.append_assoc, List.append_assoc, List.append_assoc]
    exact (List.perm_append_comm.append_left _).append_left _

/-- A document with a privileged service and a network from outside. -/
def webStack : Document where
  path := "compose.yml"
  services := .ofList [("web", { name := "web", privileged := true })]
  networks := .ofList [("edge", { name := "edge", isExternal := true, driver := none })]
  volumes := []

/-- The same with another service. -/
def dbStack : Document :=
  { webStack with services := .ofList [("db", { name := "db", privileged := true })] }

/-- Both services in one document. -/
def bothStacks : Document :=
  { webStack with
    services := .ofList [("web", { name := "web", privileged := true }),
      ("db", { name := "db", privileged := true })] }

/-- The network is reported in either document, and once where both services stand. -/
theorem evaluate_perm_unites_bothStacks :
    [Rule.privilegedMode, Rule.externalNetworks] ⊆ Rule.allRules ∧
    [Rule.privilegedMode, Rule.externalNetworks].Nodup ∧
    [Rule.externalNetworks, Rule.privilegedMode].Perm
      [Rule.privilegedMode, Rule.externalNetworks] ∧
    Unites bothStacks webStack dbStack ∧
    ∃ engine engine', create? [Rule.privilegedMode, Rule.externalNetworks] .standard = .ok engine ∧
      create? [Rule.externalNetworks, Rule.privilegedMode] .standard = .ok engine' ∧
      (engine'.evaluate bothStacks).Perm (engine.evaluate bothStacks) ∧
      (engine.evaluate bothStacks ++ engine.documentFindings bothStacks).Perm
        (engine.evaluate webStack ++ engine.evaluate dbStack) ∧
      (engine.evaluate bothStacks).map (·.ruleId) =
        ["privileged-mode", "privileged-mode", "external-networks"] := by
  have hcatalog : [Rule.privilegedMode, Rule.externalNetworks] ⊆ Rule.allRules := by
    simp [Rule.allRules, Rule.securityRules]
  have hnodup : [Rule.privilegedMode, Rule.externalNetworks].Nodup :=
    List.Nodup.of_map Rule.id (by decide)
  have hunites : Unites bothStacks webStack dbStack :=
    ⟨⟨rfl, rfl⟩, ⟨rfl, rfl⟩, List.disjoint_singleton.mpr (by decide), .refl _⟩
  obtain ⟨engine, hcreate, horder, hunion⟩ := evaluate_perm_unites .standard hcatalog hnodup
  obtain ⟨engine', hcreate', hperm⟩ := horder _ bothStacks bothStacks (.swap ..) ⟨rfl, rfl, .refl _⟩
  have hfound : (engine.evaluate bothStacks).map (·.ruleId) =
      ["privileged-mode", "privileged-mode", "external-networks"] := by
    obtain rfl := Except.ok.inj (hcreate.symm.trans (create?_eq (by decide)))
    decide
  exact ⟨hcatalog, hnodup, .swap .., hunites, engine, engine', hcreate, hcreate', hperm,
    (hunion _ _ _ hunites).2.2, hfound⟩

end Engine

end ComposeLint
