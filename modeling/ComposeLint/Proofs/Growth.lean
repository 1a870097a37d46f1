import ComposeLint.Proofs.Locality
import Mathlib.Data.List.Flatten
import Mathlib.Data.List.Perm.Subperm

/-!
# What is added is reported besides

A service may be given more capabilities, mounts, variables and ports (`Service.Within`). Every
rule of the catalog then reports all that it did before (`Rule.reportsMore_of_mem_allRules`): a rule
that looks at one of these lists judges its items one by one, and the others do not look at them. So
a document whose services are given more has every finding that it had, as often as it had it
(`Engine.evaluate_subperm`).
-/

namespace ComposeLint

/-! ## Collecting more -/

section Collecting

variable {α β γ : Type} {f g : α → List β}

/-- Of more items no less is made. -/
theorem map_subperm_map (f : α → β) {xs ys : List α} (h : xs.Subperm ys) :
    (xs.map f).Subperm (ys.map f) := by
  obtain ⟨zs, hperm, hsublist⟩ := h
  exact ⟨zs.map f, hperm.map f, hsublist.map f⟩

/-- Where each item gives as much or more, so do all. -/
theorem flatMap_subperm {xs : List α} (h : ∀ x ∈ xs, (f x).Subperm (g x)) :
    (xs.flatMap f).Subperm (xs.flatMap g) := by
  induction xs with
  | nil => exact .refl _
  | cons x xs ih =>
    rw [List.forall_mem_cons] at h
    exact h.1.append (ih h.2)

/-- **Where each name gives as much or more**, so do all names, whatever their order. -/
theorem flatMap_subperm_of_names {xs ys : List (String × α)} (hnodup : (xs.map Prod.fst).Nodup)
    (h : ∀ x ∈ xs, ∃ y, (x.1, y) ∈ ys ∧ (f x.2).Subperm (f y)) :
    (xs.flatMap fun x => f x.2).Subperm (ys.flatMap fun y => f y.2) := by
  induction xs generalizing ys with
  | nil => exact List.nil_subperm
  | cons x xs ih =>
    rw [List.map_cons, List.nodup_cons] at hnodup
    rw [List.forall_mem_cons] at h
    obtain ⟨y, hy, hmore⟩ := h.1
    obtain ⟨before, after, rfl⟩ := List.append_of_mem hy
    -- The other names stand beside this one.
    have hrest : ∀ x' ∈ xs, ∃ y', (x'.1, y') ∈ before ++ after ∧ (f x'.2).Subperm (f y') := by
      intro x' hx'
      obtain ⟨y', hy', hmore'⟩ := h.2 x' hx'
      have hne : x'.1 ≠ x.1 := fun heq => hnodup.1 (heq ▸ List.mem_map_of_mem hx')
      refine ⟨y', ?_, hmore'⟩
      simpa [hne] using hy'
    have hperm : (before ++ (x.1, y) :: after).Perm ((x.1, y) :: (before ++ after)) :=
      List.perm_middle
    exact (hmore.append (ih hnodup.2 hrest)).trans
      (hperm.flatMap_right fun entry : String × α => f entry.2).symm.subperm

end Collecting

/-! ## Services -/

/-- A service that has everything another has, and perhaps more capabilities, mounts, variables and
ports. -/
inductive Service.Within (service : Service) : Service → Prop
  | intro {capabilities : List String} {mounts : List Mount} {environment : Table EnvValue}
      {ports : List PortBinding} :
      service.capabilitiesAdded.Sublist capabilities → service.volumeMounts.Sublist mounts →
      service.environment.entries.Subperm environment.entries → service.ports.Sublist ports →
      Within service { service with
        capabilitiesAdded := capabilities, volumeMounts := mounts, environment, ports }

theorem Service.Within.refl (service : Service) : service.Within service :=
  .intro (.refl _) (.refl _) (.refl _) (.refl _)

namespace Rule

variable {rule : Rule}

/-- Whether a rule reports all about a service that it would if the service had less. -/
def ReportsMore (rule : Rule) : Prop :=
  ∀ (tables : RuleTables) (path : String) {service more : Service}, service.Within more →
    (Engine.reportAlone tables path rule service).Subperm
      (Engine.reportAlone tables path rule more)

theorem reportsMore_perService {id name category description remediation : String}
    {check : Service → RuleTables → List Hit}
    (h : ∀ tables {service more : Service}, service.Within more →
      (check service tables).Subperm (check more tables)) :
    ReportsMore ⟨id, name, category, description, remediation, perService check⟩ := by
  intro tables path service more hwithin
  have hname : more.name = service.name := by cases hwithin; rfl
  rw [Engine.reportAlone, Engine.reportAlone, hname]
  exact map_subperm_map _ (h tables hwithin)

/-- A rule does if it looks at nothing of what there may be more. -/
theorem reportsMore_of_unaffected {id name category description remediation : String}
    {check : Service → RuleTables → List Hit}
    (h : ∀ tables {service more : Service}, service.Within more →
      check more tables = check service tables) :
    ReportsMore ⟨id, name, category, description, remediation, perService check⟩ :=
  reportsMore_perService fun tables _ _ hwithin => by rw [h tables hwithin]

theorem reportsMore_dangerousCapabilities : dangerousCapabilities.ReportsMore :=
  reportsMore_perService fun _ _ _ h => by
    cases h with
    | intro hcapabilities _ _ _ => exact ((hcapabilities.filter _).map _).subperm

/-- A rule that judges the bind mounts of a service one by one does, if its judgement looks at
nothing of what there may be more. -/
theorem reportsMore_bindMountHits {id name category description remediation : String}
    {judge : Service → RuleTables → Mount → String → List Hit}
    (h : ∀ tables {service more : Service}, service.Within more →
      judge more tables = judge service tables) :
    ReportsMore ⟨id, name, category, description, remediation,
      perService fun service tables => bindMountHits service (judge service tables)⟩ :=
  reportsMore_perService fun tables service more hwithin => by
    rw [h tables hwithin]
    cases hwithin with
    | intro _ hmounts _ _ => exact (hmounts.flatMap _).subperm

theorem reportsMore_hardcodedSecrets : hardcodedSecrets.ReportsMore :=
  reportsMore_perService fun _ _ _ h => by
    cases h with
    | intro _ _ henvironment _ => exact map_subperm_map _ (henvironment.filter _)

theorem reportsMore_exposedPorts : exposedPorts.ReportsMore :=
  reportsMore_perService fun _ _ _ h => by
    cases h with
    | intro _ _ _ hports => exact (hports.flatMap _).subperm

/-- **Every rule of the catalog does.** -/
theorem reportsMore_of_mem_allRules (h : rule ∈ allRules) : rule.ReportsMore := by
  have hall : ∀ rule ∈ allRules, rule.ReportsMore := by
    simp only [allRules, securityRules, bestPracticeRules, List.cons_append, List.nil_append,
      List.forall_mem_cons, List.not_mem_nil, false_imp_iff, implies_true, and_true]
    have hnetworks : externalNetworks.ReportsMore := fun _ _ _ _ _ => .refl _
    have hdangerous : dangerousMounts.ReportsMore :=
      reportsMore_bindMountHits fun _ _ _ h => by cases h; rfl
    have hbroad : broadFilesystemMounts.ReportsMore :=
      reportsMore_bindMountHits fun _ _ _ h => by cases h; rfl
    refine ⟨?_, reportsMore_dangerousCapabilities, ?_, ?_, hdangerous, hbroad,
      reportsMore_hardcodedSecrets, ?_, ?_, ?_, hnetworks, reportsMore_exposedPorts, ?_, ?_, ?_, ?_,
      ?_⟩
    all_goals exact reportsMore_of_unaffected fun _ _ _ h => by cases h; rfl
  exact hall rule h

end Rule

/-! ## Documents -/

namespace Engine

variable {engine : Engine} {tables : RuleTables} {document more : Document} {rule : Rule}

/-- A document whose services have everything those of another have. -/
structure Within (document more : Document) : Prop where
  path : more.path = document.path
  networks : more.networks = document.networks
  services : ∀ entry ∈ document.services.entries,
    ∃ service, (entry.1, service) ∈ more.services.entries ∧ entry.2.Within service

theorem block_subperm (h : rule ∈ Rule.allRules) (hwithin : Within document more) :
    (block tables document rule).Subperm (block tables more rule) := by
  have hlocal := Rule.isLocal_of_mem_allRules h
  rw [block_eq_append, block_eq_append, servicePart_eq hlocal, servicePart_eq hlocal,
    documentPart_congr hlocal hwithin.path hwithin.networks, hwithin.path]
  refine (List.subperm_append_left _).mpr ?_
  refine flatMap_subperm_of_names document.services.nodup fun entry hentry => ?_
  obtain ⟨service, hservice, hmore⟩ := hwithin.services entry hentry
  exact ⟨service, hservice, Rule.reportsMore_of_mem_allRules h tables _ hmore⟩

/-- **More services, and more in a service, take no finding away.** -/
theorem evaluate_subperm (h : engine.rules ⊆ Rule.allRules) (hwithin : Within document more) :
    (engine.evaluate document).Subperm (engine.evaluate more) := by
  rw [evaluate_eq, evaluate_eq]
  exact flatMap_subperm fun rule hrule => block_subperm (h hrule) hwithin

end Engine

end ComposeLint
