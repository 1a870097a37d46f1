import ComposeLint.Proofs.Place

/-!
# Keys that are not read

Two manifests are alike if they have the same under every declared key of the root, the services,
their health checks, volumes and ports, and the declared networks (`Manifest.Alike`); under the
other keys either may hold anything. They are the same document, or are both refused, but for one
thing: a port in the long form is shown as a whole before it is read, which fails when a value in
it stands inside itself (`Document.toOption_ofTree_iff_of_alike`).
-/

namespace ComposeLint

open Check

/-! ## Alike in what is declared -/

namespace Likeness

/-- Two mappings that hold the same under the given keys. -/
def sameUnder (keys : List String) : Likeness := fields (keys.map fun key => (key, Eq))

theorem items.exists_trees {alike : Likeness} {found found' : Option Tree}
    (h : alike.items found found') :
    (∃ tree, found = some tree) ∧ ∃ tree', found' = some tree' := by
  obtain ⟨items, items', hitems, hitems', -⟩ := h
  exact ⟨(Option.bind_eq_some_iff.mp hitems).imp fun _ => And.left,
    (Option.bind_eq_some_iff.mp hitems').imp fun _ => And.left⟩

theorem entries.exists_trees {alike : String → Likeness} {found found' : Option Tree}
    (h : entries alike found found') :
    (∃ tree, found = some tree) ∧ ∃ tree', found' = some tree' := by
  obtain ⟨entries, entries', hentries, hentries', -⟩ := h
  exact ⟨(Option.bind_eq_some_iff.mp hentries).imp fun _ => And.left,
    (Option.bind_eq_some_iff.mp hentries').imp fun _ => And.left⟩

/-- Two lists are compared position by position. -/
theorem items.imp_child {alike alike' : Likeness} {tree tree' : Tree}
    (h : alike.items (some tree) (some tree'))
    (himp : ∀ i child child', tree.child? (.index i) = some child →
      tree'.child? (.index i) = some child' →
        alike (some child) (some child') → alike' (some child) (some child')) :
    alike'.items (some tree) (some tree') := by
  obtain ⟨items, items', hitems, hitems', hall⟩ := h
  rw [Option.bind_some] at hitems hitems'
  refine ⟨items, items', hitems, hitems', ?_⟩
  rw [List.forall₂_iff_get] at hall ⊢
  refine ⟨hall.1, fun i hi hi' => himp i _ _ ?_ ?_ (hall.2 i hi hi')⟩
  · rw [Tree.child?, hitems]
    exact List.getElem?_eq_getElem hi
  · rw [Tree.child?, hitems']
    exact List.getElem?_eq_getElem hi'

/-- Two mappings with the same keys are compared key by key. -/
theorem entries.imp_child {alike alike' : String → Likeness} {tree tree' : Tree}
    (h : entries alike (some tree) (some tree'))
    (himp : ∀ key child child', tree.child? (.key key) = some child →
      tree'.child? (.key key) = some child' →
        alike key (some child) (some child') → alike' key (some child) (some child')) :
    entries alike' (some tree) (some tree') := by
  obtain ⟨entries, entries', hentries, hentries', hall⟩ := h
  rw [Option.bind_some] at hentries hentries'
  refine ⟨entries, entries', hentries, hentries', ?_⟩
  rw [List.forall₂_iff_get] at hall ⊢
  refine ⟨hall.1, fun i hi hi' => ?_⟩
  obtain ⟨hkey, halike⟩ := hall.2 i hi hi'
  refine ⟨hkey, himp _ _ _ ?_ ?_ halike⟩
  · rw [Tree.child?, hentries]
    exact (lookup_eq_some_iff_mem (Tree.nodup_entries? hentries)).mpr (List.get_mem _ _)
  · rw [Tree.child?, hentries', hkey]
    exact (lookup_eq_some_iff_mem (Tree.nodup_entries? hentries')).mpr (List.get_mem _ _)

end Likeness

namespace Manifest

/-- The keys of a service under which every value is read as a whole. -/
def plainKeys : List String :=
  ["image", "privileged", "cap_add", "command", "network_mode", "environment", "user",
    "security_opt", "restart", "networks", "depends_on"]

/-- Two services that are alike, if their ports in the long form are as `port` says. -/
def serviceAlike (port : Likeness) : Likeness :=
  Likeness.fields <| plainKeys.map (fun key => (key, Eq)) ++
    [("volumes",
        (Likeness.sameUnder ["type", "source", "target", "read_only"]).orSame.items.orSame),
      ("ports", port.orSame.items.orSame),
      ("healthcheck", (Likeness.sameUnder ["test", "disable"]).orSame)]

/-- Two manifests that are alike, if the ports of their services are as `port` says. -/
def manifestAlike (port : String → Likeness) : Likeness :=
  Likeness.orSame <| Likeness.fields
    [("services", (Likeness.entries fun name => (serviceAlike (port name)).orSame).orSame),
      ("networks",
        (Likeness.entries fun _ => (Likeness.sameUnder ["external", "driver"]).orSame).orSame),
      ("volumes", Eq)]

/-- Two manifests that hold the same under every key that is declared. -/
def Alike (tree tree' : Tree) : Prop :=
  manifestAlike (fun _ => Likeness.sameUnder portKeys) (some tree) (some tree')

/-- Every port of a service that is kept can be shown. -/
def PortsShown (tree : Tree) : Prop :=
  ∀ name i port, name ≠ reservedKey → tree.at? (Place.port name i).path = some port →
    portShown (some port)

/-! ## What is declared is what is read -/

section Read

variable {found found' : Option Tree} {kept : Prop} {name : String} {tree tree' : Tree}

/-- What is the same under the keys that are read is read alike. -/
theorem fields_of_sameUnder {keys : List String} {readings : List (String × Likeness)}
    (h : Likeness.sameUnder keys found found') (hkeys : ∀ reading ∈ readings, reading.1 ∈ keys)
    (hrefl : Reflexive readings) : Likeness.fields readings found found' := by
  obtain ⟨entries, entries', hentries, hentries', hsame⟩ := h
  refine ⟨entries, entries', hentries, hentries', fun reading hreading => ?_⟩
  have hlookup : entries.lookup reading.1 = entries'.lookup reading.1 :=
    hsame _ (List.mem_map_of_mem (hkeys reading hreading))
  rw [hlookup]
  exact hrefl reading hreading _

/-- **Two services that are alike are read alike.** -/
theorem fields_of_serviceAlike (h : serviceAlike (portAlike kept) found found') :
    Likeness.fields (serviceReadings name kept) found found' := by
  obtain ⟨entries, entries', hentries, hentries', hfields⟩ := h
  rw [List.forall_mem_append, List.forall_mem_map] at hfields
  obtain ⟨hplain, hfields⟩ := hfields
  simp only [List.forall_mem_cons] at hfields
  obtain ⟨hvolumes, hports, hhealthcheck, -⟩ := hfields
  refine ⟨entries, entries', hentries, hentries', fun reading hreading => ?_⟩
  have hrefl := reflexive_serviceReadings name kept reading hreading
  by_cases hkey : reading.1 ∈ plainKeys
  · rw [hplain reading.1 hkey]
    exact hrefl _
  -- Three fields are left, in which there are keys that are not read.
  have hother : reading = ("volumes", Agrees (listOrNothing volume) Eq) ∨
      reading = ("ports", Agrees (listOrNothing port) (List.Forall₂ (SamePort name kept))) ∨
        reading = ("healthcheck", Agrees (nullish healthcheck) Eq) := by
    simp only [serviceReadings, List.mem_cons, List.not_mem_nil, or_false] at hreading
    rcases hreading with rfl | rfl | rfl | rfl | rfl | rfl | rfl | rfl | rfl | rfl | rfl | rfl |
      rfl | rfl <;> simp [plainKeys] at hkey ⊢
  obtain rfl | rfl | rfl := hother
  · obtain hsame | hvolumes := hvolumes
    · rw [hsame]
      exact hrefl _
    · refine agrees_volumes (hvolumes.imp fun _ _ hvolume => hvolume.imp_right fun h => ?_)
      exact fields_of_sameUnder h (by simp [volumeReadings]) reflexive_volumeReadings
  · obtain hsame | hports := hports
    · rw [hsame]
      exact hrefl _
    · exact agrees_ports hports
  · refine agrees_nullish_healthcheck (hhealthcheck.imp_right fun h => ?_)
    exact fields_of_sameUnder h (by simp [healthcheckReadings]) reflexive_healthcheckReadings

/-- **Two manifests that are alike are the same document, or none.** -/
theorem toOption_ofTree_of_manifestAlike {path : String}
    (h : manifestAlike (fun name => portAlike (name ≠ reservedKey)) (some tree) (some tree')) :
    (Document.ofTree path (some tree)).toOption = (Document.ofTree path (some tree')).toOption := by
  obtain hsame | ⟨entries, entries', hentries, hentries', hfields⟩ := h
  · rw [hsame]
  simp only [List.forall_mem_cons] at hfields
  obtain ⟨hservices, hnetworks, hvolumes, -⟩ := hfields
  refine Document.toOption_ofTree_congr ⟨entries, entries', hentries, hentries', ?_⟩
  simp only [manifestReadings, List.forall_mem_cons, List.not_mem_nil, false_imp_iff, implies_true,
    and_true]
  refine ⟨?_, ?_, ?_⟩
  · obtain hsame | hservices := hservices
    · rw [hsame]
      exact agrees_refl rel_forall₂_sameEntry_refl
    · exact agrees_services (hservices.imp fun name _ _ hservice =>
        hservice.imp_right fields_of_serviceAlike)
  · obtain hsame | hnetworks := hnetworks
    · rw [hsame]
      exact agrees_refl fun _ => rfl
    · refine agrees_networks (hnetworks.imp fun _ _ _ hnetwork => hnetwork.imp_right fun h => ?_)
      exact fields_of_sameUnder h (by simp [networkReadings]) reflexive_networkReadings
  · rw [hvolumes]
    exact agrees_refl fun _ => rfl

end Read

/-! ## Ports that can be shown -/

/-- Every port of a service can be shown. -/
def servicePortsShown (service : Tree) : Prop :=
  ∀ i port, service.at? [.key "ports", .index i] = some port → portShown (some port)

/-- Ports in the long form that can be shown are alike by their keys that are read. -/
theorem serviceAlike_of_portsShown {kept : Prop} {service service' : Tree}
    (h : serviceAlike (Likeness.sameUnder portKeys) (some service) (some service'))
    (hshown : kept → servicePortsShown service) (hshown' : kept → servicePortsShown service') :
    serviceAlike (portAlike kept) (some service) (some service') := by
  obtain ⟨entries, entries', hentries, hentries', hfields⟩ := h
  refine ⟨entries, entries', hentries, hentries', ?_⟩
  rw [Option.bind_some] at hentries hentries'
  rw [List.forall_mem_append] at hfields ⊢
  refine ⟨hfields.1, ?_⟩
  simp only [List.forall_mem_cons, List.not_mem_nil, false_imp_iff, implies_true, and_true]
    at hfields ⊢
  obtain ⟨-, hvolumes, hports, hhealthcheck⟩ := hfields
  refine ⟨hvolumes, hports.imp_right fun hports => ?_, hhealthcheck⟩
  obtain ⟨⟨listed, hlisted⟩, listed', hlisted'⟩ := hports.exists_trees
  rw [hlisted, hlisted'] at hports ⊢
  refine hports.imp_child fun i port port' hport hport' halike => halike.imp_right fun h => ?_
  refine ⟨fields_of_sameUnder h (by simp [portReadings, portKeys]) reflexive_portReadings,
    fun hkept => iff_of_true (hshown hkept i port ?_) (hshown' hkept i port' ?_)⟩
  · simp [Tree.at?, Tree.child?_key_eq (Tree.declared?_of_entries? hentries), hlisted, hport]
  · simp [Tree.at?, Tree.child?_key_eq (Tree.declared?_of_entries? hentries'), hlisted', hport']

theorem manifestAlike_of_portsShown {tree tree' : Tree} (h : Alike tree tree')
    (hshown : PortsShown tree) (hshown' : PortsShown tree') :
    manifestAlike (fun name => portAlike (name ≠ reservedKey)) (some tree) (some tree') := by
  refine Or.imp_right (fun h => ?_) h
  obtain ⟨entries, entries', hentries, hentries', hfields⟩ := h
  refine ⟨entries, entries', hentries, hentries', ?_⟩
  simp only [List.forall_mem_cons, List.not_mem_nil, false_imp_iff, implies_true, and_true]
    at hfields ⊢
  obtain ⟨hservices, hothers⟩ := hfields
  refine ⟨hservices.imp_right fun hservices => ?_, hothers⟩
  obtain ⟨⟨listed, hlisted⟩, listed', hlisted'⟩ := hservices.exists_trees
  rw [hlisted, hlisted'] at hservices ⊢
  rw [Option.bind_some] at hentries hentries'
  refine hservices.imp_child fun name service service' hservice hservice' halike => ?_
  refine halike.imp_right fun h => serviceAlike_of_portsShown h
    (fun hname i port hport => hshown name i port hname ?_)
    (fun hname i port hport => hshown' name i port hname ?_)
  · simpa [Place.path, Tree.at?, Tree.child?_key_eq (Tree.declared?_of_entries? hentries), hlisted,
      hservice] using hport
  · simpa [Place.path, Tree.at?, Tree.child?_key_eq (Tree.declared?_of_entries? hentries'),
      hlisted', hservice'] using hport

end Manifest

namespace Document

open Manifest

variable {path : String} {tree tree' : Tree}

theorem portsShown_of_ofTree {document : Document} (h : ofTree path (some tree) = .ok document) :
    PortsShown tree :=
  fun _ _ _ hname hport => portShown_of_ofTree h hname hport

theorem toOption_ofTree_of_alike (h : Alike tree tree') (hshown : PortsShown tree)
    (hshown' : PortsShown tree') :
    (ofTree path (some tree')).toOption = (ofTree path (some tree)).toOption :=
  (toOption_ofTree_of_manifestAlike (manifestAlike_of_portsShown h hshown hshown')).symm

/-- **Keys that are not read have no influence** on whether a manifest is accepted, on its document
and on its findings, exactly if the ports of both manifests can be shown or neither is accepted. -/
theorem toOption_ofTree_iff_of_alike (h : Alike tree tree') :
    ((ofTree path (some tree')).toOption = (ofTree path (some tree)).toOption ∧
      ∀ (bestPractices : Bool) (tables : RuleTables),
        (ofTree path (some tree')).toOption.map (Engine.selected bestPractices tables).evaluate =
          (ofTree path (some tree)).toOption.map (Engine.selected bestPractices tables).evaluate) ↔
      PortsShown tree ∧ PortsShown tree' ∨
        ∀ document, ofTree path (some tree) ≠ .ok document ∧
          ofTree path (some tree') ≠ .ok document := by
  constructor
  · rintro ⟨hsame, -⟩
    by_cases haccepted : ∃ document, ofTree path (some tree) = .ok document
    · obtain ⟨document, hread⟩ := haccepted
      rw [hread] at hsame
      have hread' : ofTree path (some tree') = .ok document := toOption_eq_some_iff.mp hsame
      exact .inl ⟨portsShown_of_ofTree hread, portsShown_of_ofTree hread'⟩
    · have hrefused := not_exists.mp haccepted
      rw [toOption_eq_none_iff.mpr hrefused] at hsame
      exact .inr fun document => ⟨hrefused document, toOption_eq_none_iff.mp hsame document⟩
  · rintro (⟨hshown, hshown'⟩ | hrefused)
    · have hsame : (ofTree path (some tree')).toOption = (ofTree path (some tree)).toOption :=
        toOption_ofTree_of_alike h hshown hshown'
      exact ⟨hsame, fun _ _ => congrArg _ hsame⟩
    · have hnone := toOption_eq_none_iff.mpr fun document => (hrefused document).1
      have hnone' := toOption_eq_none_iff.mpr fun document => (hrefused document).2
      rw [hnone, hnone']
      exact ⟨rfl, fun _ _ => rfl⟩

/-- A manifest with a port of which more may be said. -/
def publishing (more : List (String × Tree)) : Tree :=
  .mapping [("services", .mapping
    [("web", .mapping [("ports", .list [.mapping (("target", .nat 80) :: more)])])])]

theorem alike_publishing (note : Tree) : Alike (publishing []) (publishing [("x-note", note)]) := by
  have hone := Tree.entries?_singleton
  have hport : (Likeness.sameUnder portKeys) (some (.mapping [("target", .nat 80)]))
      (some (.mapping [("target", .nat 80), ("x-note", note)])) := by
    have hpositions : position? "target" = none ∧ position? "x-note" = none := ⟨rfl, rfl⟩
    have hentries : (Tree.mapping [("target", .nat 80), ("x-note", note)]).entries? =
        some [("target", .nat 80), ("x-note", note)] := by
      rw [Tree.entries?_mapping, readingOrder_eq_self (by simp) (by simpa using hpositions)]
    exact ⟨_, _, hone _ _, hentries, by simp [portKeys, lookup_cons_eq_ite]⟩
  have hservice : serviceAlike (Likeness.sameUnder portKeys)
      (some (.mapping [("ports", .list [.mapping [("target", .nat 80)]])]))
      (some (.mapping [("ports", .list [.mapping [("target", .nat 80), ("x-note", note)]])])) := by
    refine ⟨_, _, hone _ _, hone _ _, ?_⟩
    rw [List.forall_mem_append]
    refine ⟨by simp [plainKeys, lookup_cons_eq_ite], ?_⟩
    simp only [List.forall_mem_cons, List.not_mem_nil, false_imp_iff, implies_true, and_true]
    exact ⟨.inl rfl, .inr ⟨_, _, rfl, rfl, .cons (.inr hport) .nil⟩, .inl rfl⟩
  refine .inr ⟨_, _, hone _ _, hone _ _, ?_⟩
  simp only [List.forall_mem_cons, List.not_mem_nil, false_imp_iff, implies_true, and_true]
  exact ⟨.inr ⟨_, _, hone _ _, hone _ _, .cons ⟨rfl, .inr hservice⟩ .nil⟩, .inl rfl, rfl⟩

/-- A note on a port changes nothing. -/
theorem toOption_ofTree_iff_of_alike_note :
    (ofTree "compose.yml" (some (publishing [("x-note", .bool true)]))).toOption =
      (ofTree "compose.yml" (some (publishing []))).toOption ∧
    ∃ document, ofTree "compose.yml" (some (publishing [])) = .ok document := by
  have hread : ofTree "compose.yml" (some (publishing [])) = .ok _ := rfl
  have hread' : ofTree "compose.yml" (some (publishing [("x-note", .bool true)])) = .ok _ := rfl
  have hshown := And.intro (portsShown_of_ofTree hread) (portsShown_of_ofTree hread')
  refine ⟨?_, _, hread⟩
  exact ((toOption_ofTree_iff_of_alike (alike_publishing _)).mpr (.inl hshown)).1

/-- A note that stands inside itself refuses the manifest. -/
theorem not_toOption_ofTree_of_alike_ring :
    ¬ ∀ (path : String) (tree tree' : Tree), Alike tree tree' →
      (ofTree path (some tree')).toOption = (ofTree path (some tree)).toOption := by
  intro h
  have hsame := h "compose.yml" _ _ (alike_publishing (.ring 0 (.list [.again 0])))
  cases hsame

end Document

end ComposeLint
