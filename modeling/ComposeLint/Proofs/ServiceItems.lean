import ComposeLint.Proofs.FieldByField

/-!
# The items of a service, and what rules find in it

The volumes and the ports of a service are items of lists, and each is read on its own: what a
service holds are the items of its lists in their order (`Manifest.volumes_of_readsAs`,
`Manifest.ports_of_readsAs`). So what a rule finds is compared item by item (`forall₂_found`). The
image, the capabilities and the environment can always be read once they have the right shape.
-/

namespace ComposeLint

open Check

/-- **What is found in two lists is related**, item by item, if the items are and what is found in
one follows from the other. -/
theorem forall₂_found {α β γ δ : Type} {R : α → β → Prop} {F : α → γ → Prop} {G : β → δ → Prop}
    {Q : γ → δ → Prop} {xs : List α} {ys : List β} {fs : List γ} {gs : List δ}
    (h : List.Forall₂ R xs ys) (hxs : List.Forall₂ F xs fs) (hys : List.Forall₂ G ys gs)
    (hitem : ∀ {x y f g}, R x y → F x f → G y g → Q f g) : List.Forall₂ Q fs gs := by
  induction h generalizing fs gs with
  | nil =>
    cases hxs
    cases hys
    exact .nil
  | cons hxy _ ih =>
    obtain _ | ⟨hx, hxs⟩ := hxs
    obtain _ | ⟨hy, hys⟩ := hys
    exact .cons (hitem hxy hx hy) (ih hxs hys)

/-- Where every item has something, a list of them has. -/
theorem exists_forall₂ {α β : Type} {R : α → β → Prop} :
    ∀ {xs : List α}, (∀ x ∈ xs, ∃ y, R x y) → ∃ ys, List.Forall₂ R xs ys
  | [], _ => ⟨[], .nil⟩
  | _ :: _, h => by
    obtain ⟨⟨y, hy⟩, hrest⟩ := List.forall_mem_cons.mp h
    obtain ⟨ys, hys⟩ := exists_forall₂ hrest
    exact ⟨y :: ys, .cons hy hys⟩

namespace Manifest

variable {α : Type} {name : String} {tree : Tree} {service : Service}

/-- What the items of a list are read as that stands in a field of a service. A list may be left out
or null. -/
def Lists (check : Check α) (field : String) (tree : Tree) (shapes : List α) : Prop :=
  ∃ fields items, Tree.declared? (some tree) = some fields ∧
    Tree.listed? (fields.lookup field) = some items ∧
      items.map (fun item => check (some item)) = shapes.map .valid

/-- A list is read as what it is read as item by item. -/
theorem listOrNothing_of_lists {check : Check α} {field : String} {shapes : List α}
    {fields : List (String × Tree)} (h : Lists check field tree shapes)
    (hfields : Tree.declared? (some tree) = some fields) :
    listOrNothing check (fields.lookup field) = .valid shapes := by
  obtain ⟨fields', items, hfields', hitems, hshapes⟩ := h
  obtain rfl := Option.some.inj (hfields.symm.trans hfields')
  exact listOrNothing_eq_valid_iff.mpr ⟨items, hitems, hshapes⟩

/-- And it lists what it is read as. -/
theorem lists_of_listOrNothing {check : Check α} {field : String} {shapes : List α}
    {fields : List (String × Tree)} (hfields : Tree.declared? (some tree) = some fields)
    (h : listOrNothing check (fields.lookup field) = .valid shapes) :
    Lists check field tree shapes := by
  obtain ⟨items, hitems, hshapes⟩ := listOrNothing_eq_valid_iff.mp h
  exact ⟨fields, items, hfields, hitems, hshapes⟩

theorem reduceService_eq_ok {shape : ServiceShape} (h : reduceService name shape = .ok service) :
    List.Forall₂ (fun volume read => mount name volume = .ok read) shape.volumes
        service.volumeMounts ∧
      List.Forall₂ (fun port read => binding name port = .ok read) shape.ports service.ports ∧
      service.name = name := by
  simp only [reduceService, bind_eq_ok_iff] at h
  obtain ⟨setting, -, mounts, hmounts, bindings, hbindings, hservice⟩ := h
  cases hservice
  exact ⟨mapM_eq_ok_iff.mp hmounts, mapM_eq_ok_iff.mp hbindings, rfl⟩

/-- What can always be read of a service is read field by field. -/
theorem fields_of_reduceService {shape : ServiceShape}
    (h : reduceService name shape = .ok service) :
    service.image = shape.image.map Image.parse ∧
      service.capabilitiesAdded = (shape.capabilities.map capabilityName).eraseDups ∧
      service.environment = environmentOf shape.environment := by
  simp only [reduceService, bind_eq_ok_iff] at h
  obtain ⟨_, -, _, -, _, -, hservice⟩ := h
  cases hservice
  exact ⟨rfl, rfl, rfl⟩

/-- **The image of a service** is the one that is named. -/
theorem image_of_readsAs (h : ReadsAs name tree service) :
    ∃ fields written, Tree.declared? (some tree) = some fields ∧
      nullish text (fields.lookup "image") = .valid written ∧
      service.image = written.map Image.parse ∧ service.name = name := by
  obtain ⟨fields, hfields, shape, hshape, hservice⟩ := readsAs_iff.mp h
  exact ⟨fields, shape.image, hfields, hshape.get .image, (fields_of_reduceService hservice).1,
    name_of_reduceService hservice⟩

/-- **The capabilities of a service** are those that are listed, each once. -/
theorem capabilities_of_readsAs (h : ReadsAs name tree service) :
    ∃ listed, Lists text "cap_add" tree listed ∧
      service.capabilitiesAdded = (listed.map capabilityName).eraseDups ∧ service.name = name := by
  obtain ⟨fields, hfields, shape, hshape, hservice⟩ := readsAs_iff.mp h
  exact ⟨shape.capabilities, lists_of_listOrNothing hfields (hshape.get .capabilities),
    (fields_of_reduceService hservice).2.1, name_of_reduceService hservice⟩

/-- **The variables of a service** are those of its environment. -/
theorem environment_of_readsAs (h : ReadsAs name tree service) :
    ∃ fields environment, Tree.declared? (some tree) = some fields ∧
      nullish Manifest.environment (fields.lookup "environment") = .valid environment ∧
      service.environment = environmentOf environment ∧ service.name = name := by
  obtain ⟨fields, hfields, shape, hshape, hservice⟩ := readsAs_iff.mp h
  exact ⟨fields, shape.environment, hfields, hshape.get .environment,
    (fields_of_reduceService hservice).2.2, name_of_reduceService hservice⟩

/-- **The volumes of a service** are those that are listed. -/
theorem volumes_of_readsAs (h : ReadsAs name tree service) :
    ∃ shapes, Lists volume "volumes" tree shapes ∧
      List.Forall₂ (fun shape read => mount name shape = .ok read) shapes service.volumeMounts ∧
      service.name = name := by
  obtain ⟨fields, hfields, shape, hshape, hservice⟩ := readsAs_iff.mp h
  obtain ⟨hmounts, -, hname⟩ := reduceService_eq_ok hservice
  exact ⟨shape.volumes, lists_of_listOrNothing hfields (hshape.get .volumes), hmounts, hname⟩

/-- **The ports of a service** are those that are listed. -/
theorem ports_of_readsAs (h : ReadsAs name tree service) :
    ∃ shapes, Lists port "ports" tree shapes ∧
      List.Forall₂ (fun shape read => binding name shape = .ok read) shapes service.ports ∧
      service.name = name := by
  obtain ⟨fields, hfields, shape, hshape, hservice⟩ := readsAs_iff.mp h
  obtain ⟨-, hbindings, hname⟩ := reduceService_eq_ok hservice
  exact ⟨shape.ports, lists_of_listOrNothing hfields (hshape.get .ports), hbindings, hname⟩

end Manifest

namespace Rule

/-- What a rule finds in a service, unless it fails or looks at documents only. -/
def hits? (rule : Rule) (context : RuleContext) (service : Service) : Option (List Hit) :=
  match rule.inspection with
  | .service check => (check service context).toOption
  | .document _ => none

/-- Hits that say the same about a service are about the same name. -/
theorem hit_injective (service : Service) (severity : Severity) (said : String) :
    Function.Injective fun name => (⟨severity, about service (said ++ name)⟩ : Hit) := by
  intro name other h
  simpa [about] using h

end Rule

end ComposeLint
