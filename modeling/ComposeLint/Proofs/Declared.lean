import ComposeLint.Proofs.Manifest

/-!
# What is declared is kept

A document has one service for each key under `services`, in reading order, and one network for
each key under `networks`. The one exception is the reserved key, which no record keeps:
`names_ofTree` says which names remain; so a document holds everything that its manifest declares
exactly when the reserved key is not among the names.
-/

namespace ComposeLint

open Check

variable {α : Type} {found : Option Tree} {entries : List (String × Tree)}

/-! ## Keys of records -/

namespace Check

variable {check : Check α}

/-- Each value that is read stands beside the key of its entry. -/
theorem keys_of_all {values : List (String × α)}
    (h : Checked.all (entries.map fun (key, value) =>
      (check (some value)).within (.key key) |>.map fun v => (key, v)) = .valid values) :
    values.map Prod.fst = entries.map Prod.fst := by
  rw [Checked.all_eq_valid_iff] at h
  induction entries generalizing values with
  | nil =>
    rw [List.map_nil] at h
    rw [List.map_eq_nil_iff.mp h.symm]
    rfl
  | cons entry entries ih =>
    cases values with
    | nil => cases h
    | cons value values =>
      obtain ⟨hentry, hrest⟩ := List.cons.inj h
      obtain ⟨_, -, hvalue⟩ := Checked.meets_map.mp (Checked.meets_eq_iff.mpr hentry)
      rw [List.map_cons, List.map_cons, ih hrest, ← hvalue]

/-- **A record keeps every key but the reserved one**, in reading order. -/
theorem keys_of_record {kept : List (String × α)} (h : record check found = .valid kept) :
    kept.map Prod.fst =
      (((found.bind Tree.entries?).getD []).map Prod.fst).filter (· ≠ reservedKey) := by
  have hkept := Checked.meets_eq_iff.mpr h
  rw [record] at hkept
  obtain ⟨entries, hentries, hread⟩ := accepts_object_iff.mp hkept
  obtain ⟨values, hvalues, rfl⟩ := Checked.meets_map.mp hread
  rw [hentries, Option.getD_some, ← keys_of_all hvalues, List.filter_map]
  rfl

/-- A value that may be missing is read as one, or it is missing. -/
theorem eq_none_or_of_nullish {check : Check α} {value : Option α}
    (h : nullish check found = .valid value) :
    value = none ∧ (found = none ∨ found = some .null) ∨
      ∃ v, value = some v ∧ check found = .valid v := by
  cases found with
  | none =>
    cases h
    exact .inl ⟨rfl, .inl rfl⟩
  | some tree =>
    by_cases htree : tree = .null
    · subst htree
      cases h
      exact .inl ⟨rfl, .inr rfl⟩
    · have hnullish : nullish check (some tree) = (check (some tree)).map some := by
        cases tree <;> first | rfl | exact absurd rfl htree
      rw [hnullish] at h
      obtain ⟨v, hv, rfl⟩ := Checked.meets_map.mp (Checked.meets_eq_iff.mpr h)
      exact .inr ⟨v, rfl, hv⟩

/-- A record that may be missing has no keys when it is. -/
theorem keys_of_nullish_record {kept : Option (List (String × α))}
    (h : nullish (record check) found = .valid kept) :
    (kept.getD []).map Prod.fst =
      (((found.bind Tree.entries?).getD []).map Prod.fst).filter (· ≠ reservedKey) := by
  rcases eq_none_or_of_nullish h with ⟨rfl, rfl | rfl⟩ | ⟨values, rfl, hvalues⟩
  · rfl
  · rfl
  · exact keys_of_record hvalues

end Check

namespace Manifest

/-- A service is reduced under its own name. -/
theorem name_of_reduceService {name : String} {shape : ServiceShape} {service : Service}
    (h : reduceService name shape = .ok service) : service.name = name := by
  simp only [reduceService, bind_eq_ok_iff] at h
  obtain ⟨_, -, _, -, _, -, hservice⟩ := h
  cases hservice
  rfl

/-- Services are reduced one by one, each under its key. -/
theorem keys_of_reduceEntries {shapes : List (String × Option ServiceShape)}
    {services : List (String × Service)} (h : shapes.mapM reduceEntry = .ok services) :
    services.map Prod.fst = shapes.map Prod.fst ∧ ∀ entry ∈ services, entry.2.name = entry.1 := by
  rw [mapM_eq_ok_iff] at h
  induction h with
  | nil => exact ⟨rfl, by simp⟩
  | cons hentry _ ih =>
    obtain ⟨service, hservice, rfl⟩ := map_eq_ok_iff.mp hentry
    exact ⟨congrArg (_ :: ·) ih.1,
      List.forall_mem_cons.mpr ⟨name_of_reduceService hservice, ih.2⟩⟩

/-- So are networks, all of them. -/
theorem keys_of_reduceNetworks (shapes : List (String × Option NetworkShape)) :
    (shapes.map reduceNetwork).map Prod.fst = shapes.map Prod.fst ∧
      ∀ entry ∈ shapes.map reduceNetwork, entry.2.name = entry.1 := by
  rw [List.map_map, List.forall_mem_map]
  exact ⟨rfl, fun _ _ => rfl⟩

end Manifest

/-! ## Documents -/

/-- The keys under a section of a manifest, in reading order; none if there is no mapping. -/
def Tree.keysUnder (tree : Tree) (name : String) : List String :=
  (((tree.entries?.bind (·.lookup name)).bind Tree.entries?).getD []).map Prod.fst

/-- Whether a section of a manifest is a mapping. -/
def Tree.hasMapping (tree : Tree) (name : String) : Bool :=
  ((tree.entries?.bind (·.lookup name)).bind Tree.entries?).isSome

namespace Document

/-- The table has exactly these names, in this order, and each value carries its own. -/
def Holds (table : Table α) (nameOf : α → String) (names : List String) : Prop :=
  table.names = names ∧ ∀ entry ∈ table.entries, nameOf entry.2 = entry.1

/-- Values that carry the distinct names they are put under are held under them. -/
theorem holds_ofList {entries : List (String × α)} {nameOf : α → String}
    (hnodup : (entries.map Prod.fst).Nodup) (hnames : ∀ entry ∈ entries, nameOf entry.2 = entry.1) :
    Holds (Table.ofList entries) nameOf (entries.map Prod.fst) := by
  rw [Holds, Table.names, Table.entries_ofList hnodup]
  exact ⟨rfl, hnames⟩

theorem nodup_keysUnder (tree : Tree) (name : String) : (tree.keysUnder name).Nodup := by
  rw [Tree.keysUnder]
  cases h : (tree.entries?.bind (·.lookup name)).bind Tree.entries? with
  | none => exact .nil
  | some entries => exact Manifest.nodup_of_bind_entries? h

/-- **The names of a document** are the declared ones without the reserved key. -/
theorem names_ofTree {path : String} {tree : Tree} {document : Document}
    (h : ofTree path (some tree) = .ok document) (hservices : tree.hasMapping "services" = true) :
    Holds document.services Service.name
        ((tree.keysUnder "services").filter (· ≠ reservedKey)) ∧
      Holds document.networks Network.name
        ((tree.keysUnder "networks").filter (· ≠ reservedKey)) := by
  rcases ofTree_eq_ok_iff.mp h with ⟨rfl, -⟩ | ⟨-, hread⟩
  · cases hservices
  rw [Manifest.manifest] at hread
  obtain ⟨entries, hentries, hfields⟩ := accepts_object_iff.mp hread
  simp only [Checked.meets_seq, Checked.meets_fmap, meets_field] at hfields
  obtain ⟨services, hreadServices, networks, hreadNetworks, volumes, -, hreduce⟩ := hfields
  rw [Option.bind_some] at hentries
  have hserviceKeys := keys_of_nullish_record hreadServices
  have hnetworkKeys := keys_of_nullish_record hreadNetworks
  have hunder : ∀ name : String, tree.keysUnder name =
      (((entries.lookup name).bind Tree.entries?).getD []).map Prod.fst := fun name => by
    rw [Tree.keysUnder, hentries, Option.bind_some]
  rw [← hunder] at hserviceKeys hnetworkKeys
  -- Without services the networks would be left out too.
  rcases eq_none_or_of_nullish hreadServices with ⟨-, hnone⟩ | ⟨shapes, rfl, -⟩
  · rw [Tree.hasMapping, hentries, Option.bind_some] at hservices
    rcases hnone with hnone | hnone <;> rw [hnone] at hservices <;> cases hservices
  · obtain ⟨reduced, hreduced, rfl⟩ := map_eq_ok_iff.mp hreduce
    obtain ⟨hreducedKeys, hnames⟩ := Manifest.keys_of_reduceEntries hreduced
    rw [Option.getD_some, ← hreducedKeys] at hserviceKeys
    obtain ⟨hreducedNetworks, hnetworkNames⟩ := Manifest.keys_of_reduceNetworks (networks.getD [])
    rw [← hreducedNetworks] at hnetworkKeys
    rw [← hserviceKeys, ← hnetworkKeys]
    refine ⟨holds_ofList ?_ hnames, holds_ofList ?_ hnetworkNames⟩
    · rw [hserviceKeys]
      exact (nodup_keysUnder tree _).filter _
    · rw [hnetworkKeys]
      exact (nodup_keysUnder tree _).filter _

/-- **Everything declared is kept** exactly when nothing is declared under the reserved key: then
there is one service for each key under `services`, in order and under this name, and one network
for each key under `networks`. -/
theorem declares_iff {path : String} {tree : Tree} {document : Document}
    (h : ofTree path (some tree) = .ok document) (hservices : tree.hasMapping "services" = true) :
    Holds document.services Service.name (tree.keysUnder "services") ∧
      Holds document.networks Network.name (tree.keysUnder "networks") ↔
        reservedKey ∉ tree.keysUnder "services" ∧ reservedKey ∉ tree.keysUnder "networks" := by
  obtain ⟨⟨hservice, hserviceName⟩, hnetwork, hnetworkName⟩ := names_ofTree h hservices
  have hfilter : ∀ {names : List String},
      names.filter (· ≠ reservedKey) = names ↔ reservedKey ∉ names := by
    intro names
    simp only [List.filter_eq_self, decide_eq_true_eq, ne_eq]
    exact ⟨fun hall hmem => hall _ hmem rfl, fun hnot name hmem heq => hnot (heq ▸ hmem)⟩
  simp only [Holds, hservice, hnetwork, hfilter]
  exact and_congr (and_iff_left hserviceName) (and_iff_left hnetworkName)

/-- A manifest with two services, of which one is named by a number, and a network. -/
def numberedServices : Tree :=
  .mapping [("services", .mapping [("web", .null), ("7", .mapping [("image", .text "redis")])]),
    ("networks", .mapping [("back", .null)])]

theorem declares_numberedServices :
    ∃ document, ofTree "compose.yml" (some numberedServices) = .ok document ∧
      Holds document.services Service.name ["7", "web"] ∧
      Holds document.networks Network.name ["back"] := by
  have hread : ofTree "compose.yml" (some numberedServices) = .ok _ := rfl
  exact ⟨_, hread, (declares_iff hread rfl).mpr (by decide +kernel)⟩

/-- A manifest that declares a service under the reserved key, and one under another name. -/
def reservedService : Tree :=
  .mapping [("services", .mapping
    [("__proto__", .mapping [("privileged", .bool true)]), ("web", .mapping [])])]

/-- The service under the reserved key is lost. -/
theorem names_reservedService :
    ∃ document, ofTree "compose.yml" (some reservedService) = .ok document ∧
      reservedService.hasMapping "services" = true ∧
      reservedService.keysUnder "services" = ["__proto__", "web"] ∧
      document.services.names = ["web"] :=
  ⟨_, rfl, by decide +kernel, by decide +kernel, by decide +kernel⟩

end Document

end ComposeLint
