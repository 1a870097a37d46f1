import ComposeLint.Proofs.Declared
import ComposeLint.Proofs.Locality
import ComposeLint.Proofs.Replacement

/-!
# Reading service by service

A manifest is accepted when each of its services is and what stands beside them is
(`Document.exists_ofTree_iff_takes`), and every service of the document is what stands under its
name read on its own (`Document.ReadFrom`). So the services of two manifests may be put together:
the one that holds both is accepted exactly when they are, and its services are theirs
(`Document.ofTree_unites`).
-/

namespace ComposeLint

open Check

variable {α β ε : Type}

/-! ## Entries without their order -/

/-- Entries with distinct keys are the same up to order if none is in one list only. -/
theorem perm_of_mem_iff {xs ys : List (String × α)} (hxs : (xs.map Prod.fst).Nodup)
    (hys : (ys.map Prod.fst).Nodup) (h : ∀ x, x ∈ xs ↔ x ∈ ys) : xs.Perm ys :=
  (List.perm_ext_iff_of_nodup hxs.of_map hys.of_map).mpr h

/-- What is read one by one is what is read of some item. -/
theorem mem_of_mapM_iff {f : α → Except ε β} {xs : List α} {ys : List β}
    (h : xs.mapM f = .ok ys) {y : β} : y ∈ ys ↔ ∃ x ∈ xs, f x = .ok y := by
  rw [mapM_eq_ok_iff] at h
  induction h with
  | nil => simp
  | cons hxy _ ih => simp [ih, hxy, eq_comm]

theorem mem_readingOrder_iff {entries : List (String × α)} {key : String} {value : α} :
    (key, value) ∈ readingOrder entries ↔ entries.reverse.lookup key = some value := by
  rw [← lookup_eq_some_iff_mem (nodup_readingOrder entries), lookup_readingOrder]

theorem key_mem_of_mem_readingOrder {entries : List (String × α)} {entry : String × α}
    (h : entry ∈ readingOrder entries) : entry.1 ∈ entries.map Prod.fst := by
  obtain ⟨before, after, hentries, -⟩ := List.lookup_eq_some_iff.mp (mem_readingOrder_iff.mp h)
  have hmem : entry ∈ entries.reverse := by simp [hentries]
  exact List.mem_map_of_mem (List.mem_reverse.mp hmem)

/-- **Mappings with different keys are read side by side**, whatever order they are read in. -/
theorem readingOrder_append_perm {xs ys : List (String × α)}
    (h : (xs.map Prod.fst).Disjoint (ys.map Prod.fst)) :
    (readingOrder (xs ++ ys)).Perm (readingOrder xs ++ readingOrder ys) := by
  have hkeys : ((readingOrder xs ++ readingOrder ys).map Prod.fst).Nodup := by
    rw [List.map_append]
    refine (nodup_readingOrder xs).append (nodup_readingOrder ys) fun key hx hy => ?_
    obtain ⟨x, hmem, rfl⟩ := List.mem_map.mp hx
    obtain ⟨y, hmem', hkey⟩ := List.mem_map.mp hy
    exact h (key_mem_of_mem_readingOrder hmem) (hkey ▸ key_mem_of_mem_readingOrder hmem')
  refine perm_of_mem_iff (nodup_readingOrder _) hkeys fun (key, value) => ?_
  rw [List.mem_append, mem_readingOrder_iff, mem_readingOrder_iff, mem_readingOrder_iff,
    List.reverse_append, List.lookup_append]
  cases hy : ys.reverse.lookup key with
  | none => simp
  | some held =>
    -- A key of the second mapping is none of the first.
    have hkey : key ∈ ys.map Prod.fst := key_mem_of_mem_readingOrder (mem_readingOrder_iff.mpr hy)
    have hx : xs.reverse.lookup key ≠ some value := fun hx =>
      h (key_mem_of_mem_readingOrder (mem_readingOrder_iff.mpr hx)) hkey
    simp [hx]

namespace Check

variable {check : Check α} {found : Option Tree} {entries : List (String × Tree)}

/-- An entry of a record is read as its value is, beside its key. -/
theorem within_key_eq_valid_iff {entry : String × Tree} {kept : String × α} :
    ((check (some entry.2)).within (.key entry.1) |>.map fun v => (entry.1, v)) = .valid kept ↔
      entry.1 = kept.1 ∧ check (some entry.2) = .valid kept.2 := by
  obtain ⟨key, value⟩ := kept
  cases check (some entry.2) <;> simp [Checked.within, Checked.map]

/-- **A record is read entry by entry**, and what stands under the reserved key is left out. -/
theorem record_eq_valid_iff {kept : List (String × α)} : record check found = .valid kept ↔
    ∃ entries values, found.bind Tree.entries? = some entries ∧
      List.Forall₂ (fun entry value => entry.1 = value.1 ∧ check (some entry.2) = .valid value.2)
        entries values ∧ values.filter (·.1 ≠ reservedKey) = kept := by
  have hmeets : record check found = .valid kept ↔
      Accepts (record check) (fun read => read = kept) found := Checked.meets_eq_iff.symm
  rw [hmeets, record, accepts_object_iff]
  refine exists_congr fun entries => ?_
  rw [Checked.meets_map, exists_and_left]
  refine and_congr_right fun _ => exists_congr fun values => and_congr_left fun _ => ?_
  rw [Checked.all_eq_valid_iff, ← List.forall₂_eq_eq_eq, List.forall₂_map_left_iff,
    List.forall₂_map_right_iff]
  simp only [within_key_eq_valid_iff]

/-- **An entry of a record is what its value is read as**, unless its key is the reserved one. -/
theorem mem_record_iff {kept : List (String × α)} (h : record check found = .valid kept)
    (hentries : found.bind Tree.entries? = some entries) {key : String} {value : α} :
    (key, value) ∈ kept ↔
      key ≠ reservedKey ∧ ∃ tree, (key, tree) ∈ entries ∧ check (some tree) = .valid value := by
  obtain ⟨entries', values, hentries', hread, rfl⟩ := record_eq_valid_iff.mp h
  obtain rfl : entries = entries' := Option.some.inj (hentries.symm.trans hentries')
  have hmem : (key, value) ∈ values ↔
      ∃ tree, (key, tree) ∈ entries ∧ check (some tree) = .valid value := by
    clear h hentries hentries'
    induction hread with
    | nil => simp
    | @cons entry kept _ _ hentry _ ih =>
      obtain ⟨name, tree⟩ := entry
      obtain ⟨rfl, hvalue⟩ := hentry
      simp only [List.mem_cons, ih, Prod.ext_iff, or_and_right, exists_or]
      refine or_congr_left ⟨?_, ?_⟩
      · rintro ⟨rfl, rfl⟩
        exact ⟨tree, ⟨rfl, rfl⟩, hvalue⟩
      · rintro ⟨_, ⟨rfl, rfl⟩, hread⟩
        exact ⟨rfl, Checked.valid.inj (hread.symm.trans hvalue)⟩
  rw [List.mem_filter, hmem, and_comm]
  simp

end Check

/-! ## What is read of a manifest -/

/-- The services of a manifest in reading order, if it has a mapping of them. -/
def Tree.services? (tree : Tree) : Option (List (String × Tree)) :=
  (tree.child? (.key "services")).bind Tree.entries?

theorem Tree.keysUnder_services {tree : Tree} {services : List (String × Tree)}
    (h : tree.services? = some services) :
    tree.keysUnder "services" = services.map Prod.fst :=
  congrArg (fun found => (Option.getD found []).map Prod.fst) h

namespace Manifest

/-- What stands under a name is read as a service. Null is a service without fields. -/
def ReadsAs (name : String) (tree : Tree) (read : Service) : Prop :=
  Accepts (orNull service) (fun shape => reduceService name (shape.getD {}) = .ok read) (some tree)

/-- What stands under a name is accepted as a service. Under the reserved key only its shape is
looked at. -/
def Takes (name : String) (tree : Tree) : Prop :=
  Accepts (orNull service)
    (fun shape => name ≠ reservedKey → ∃ read, reduceService name (shape.getD {}) = .ok read)
    (some tree)

theorem reduceEntry_eq_ok_iff {key name : String} {shape : Option ServiceShape}
    {read : Service} : reduceEntry (key, shape) = .ok (name, read) ↔
      key = name ∧ reduceService key (shape.getD {}) = .ok read := by
  simp only [reduceEntry, map_eq_ok_iff, Prod.mk.injEq]
  constructor
  · rintro ⟨_, hread, rfl, rfl⟩
    exact ⟨rfl, hread⟩
  · rintro ⟨rfl, hread⟩
    exact ⟨read, hread, rfl, rfl⟩

/-- What has entries can be read as a mapping. -/
theorem isMapping_of_entries? {tree : Tree} {entries : List (String × Tree)}
    (h : tree.entries? = some entries) : isMapping tree = true := by
  cases tree with
  | mapping => rfl
  | bytes => rfl
  | ring n content =>
    rw [isMapping]
    cases content with
    | again m =>
      by_cases hm : m = n <;> simp [Tree.entries?, Tree.unrolled, Tree.graft, hm] at h
    | _ => first | rfl | cases h
  | _ => cases h

/-- What stands beside the services is accepted. -/
def TakesOthers (networks volumes : Option Tree) : Prop :=
  Accepts (nullish (record (orNull network))) (fun _ => True) networks ∧
    Accepts (nullish anyRecord) (fun _ => True) volumes

/-- What stands under `services` is accepted name by name. -/
theorem accepts_services_iff {found : Option Tree} {entries : List (String × Tree)}
    (h : found.bind Tree.entries? = some entries) :
    Accepts (nullish (record (orNull service)))
        (fun services => ∀ shapes ∈ services, ∀ entry ∈ shapes, ∃ read,
          reduceService entry.1 (entry.2.getD {}) = .ok read) found ↔
      ∀ entry ∈ entries, Takes entry.1 entry.2 := by
  have hrecord : Accepts (record (orNull service)) (fun shapes => ∀ entry ∈ shapes, ∃ read,
      reduceService entry.1 (entry.2.getD {}) = .ok read) found ↔
        Demand.entries (fun name => Accepts (orNull service) fun shape =>
          name ≠ reservedKey → ∃ read, reduceService name (shape.getD {}) = .ok read) found :=
    accepts_record_iff (P := fun name (shape : Option ServiceShape) =>
      ∃ read, reduceService name (shape.getD {}) = .ok read)
  have hfound : found ≠ none ∧ found ≠ some .null := by
    constructor <;> rintro rfl <;> cases h
  rw [accepts_nullish_iff (by simp), Demand.orNull]
  simp only [Option.mem_some_iff, forall_eq', hrecord, Demand.entries, h, hfound.1, hfound.2,
    false_or, Option.some.injEq, exists_eq_left']
  rfl

end Manifest

namespace Document

variable {path : String} {tree : Tree} {services : List (String × Tree)} {document : Document}

/-- **A manifest is accepted service by service.** -/
theorem exists_ofTree_iff_takes (h : tree.services? = some services) :
    (∃ document, ofTree path (some tree) = .ok document) ↔
      (∀ entry ∈ services, Manifest.Takes entry.1 entry.2) ∧
        Manifest.TakesOthers (tree.child? (.key "networks")) (tree.child? (.key "volumes")) := by
  obtain ⟨found, hfound, hservices⟩ := Option.bind_eq_some_iff.mp h
  obtain ⟨entries, hentries, hlookup⟩ := Option.bind_eq_some_iff.mp hfound
  have hnull : tree ≠ .null := by rintro rfl; cases hentries
  have hread : (some found).bind Tree.entries? = some services := hservices
  rw [exists_ofTree_eq_ok_iff, Demand.fields, Option.bind_some, hentries,
    Manifest.isMapping_of_entries? hentries]
  simp only [hnull, false_or, true_and, Option.some.injEq, exists_eq_left', Manifest.manifestFields,
    List.forall_mem_cons, List.not_mem_nil, false_imp_iff, implies_true, and_true, hlookup,
    Manifest.accepts_services_iff hread, Manifest.TakesOthers,
    Tree.child?, hentries, Option.bind_some]

/-- What a document holds of the services, the networks and the volumes of a manifest. -/
structure ReadFrom (document : Document) (services : List (String × Tree))
    (networks volumes : Option Tree) : Prop where
  mem_services_iff : ∀ name service, (name, service) ∈ document.services.entries ↔
    name ≠ reservedKey ∧ ∃ tree, (name, tree) ∈ services ∧ Manifest.ReadsAs name tree service
  networks : ∃ shapes, nullish (record (Manifest.orNull Manifest.network)) networks =
    .valid shapes ∧ document.networks = .ofList ((shapes.getD []).map Manifest.reduceNetwork)
  volumes : ∃ held, nullish anyRecord volumes = .valid held ∧
    document.volumes = ((held.getD []).map Prod.fst).eraseDups

/-- **A document holds what its manifest says**, service by service. -/
theorem readFrom_of_ofTree (hservices : tree.services? = some services)
    (h : ofTree path (some tree) = .ok document) :
    document.path = path ∧ document.ReadFrom services (tree.child? (.key "networks"))
      (tree.child? (.key "volumes")) := by
  obtain ⟨found, hfound, hservices⟩ := Option.bind_eq_some_iff.mp hservices
  obtain ⟨entries, hentries, hlookup⟩ := Option.bind_eq_some_iff.mp hfound
  have hnull : tree ≠ .null := by rintro rfl; cases hentries
  obtain ⟨-, hread⟩ := (ofTree_eq_ok_iff.mp h).resolve_left fun hempty => hnull hempty.1
  rw [Manifest.manifest] at hread
  obtain ⟨entries', hentries', hfields⟩ := accepts_object_iff.mp hread
  obtain rfl : entries = entries' := Option.some.inj (hentries.symm.trans hentries')
  simp only [Checked.meets_seq, Checked.meets_fmap, meets_field] at hfields
  obtain ⟨kept, hkept, networks, hnetworks, volumes, hvolumes, hreduce⟩ := hfields
  rw [hlookup] at hkept
  have hkeys := keys_of_nullish_record hkept
  rcases eq_none_or_of_nullish hkept with ⟨-, hnone | hnone⟩ | ⟨shapes, rfl, hshapes⟩
  · cases hnone
  · cases hnone
    cases hservices
  obtain ⟨reduced, hreduced, rfl⟩ := map_eq_ok_iff.mp hreduce
  have hnodup : (reduced.map Prod.fst).Nodup := by
    rw [(Manifest.keys_of_reduceEntries hreduced).1, ← Option.getD_some (a := shapes) (b := []),
      hkeys, Option.bind_some, hservices, Option.getD_some]
    exact (Tree.nodup_entries? hservices).filter _
  refine ⟨rfl, ⟨fun name service => ?_, ⟨networks, ?_, rfl⟩, volumes, ?_, rfl⟩⟩
  · rw [Table.entries_ofList hnodup, mem_of_mapM_iff hreduced]
    constructor
    · rintro ⟨⟨key, shape⟩, hmem, hentry⟩
      obtain ⟨rfl, hread⟩ := Manifest.reduceEntry_eq_ok_iff.mp hentry
      obtain ⟨hne, tree, htree, hshape⟩ := (mem_record_iff hshapes hservices).mp hmem
      exact ⟨hne, tree, htree, shape, hshape, hread⟩
    · rintro ⟨hne, tree, htree, shape, hshape, hread⟩
      exact ⟨(name, shape), (mem_record_iff hshapes hservices).mpr ⟨hne, tree, htree, hshape⟩,
        Manifest.reduceEntry_eq_ok_iff.mpr ⟨rfl, hread⟩⟩
  · rw [Tree.child?, hentries]
    exact hnetworks
  · rw [Tree.child?, hentries]
    exact hvolumes

variable {networks volumes : Option Tree} {other both : Document}

/-- What has a name in a document is declared under this name. -/
theorem ReadFrom.key_mem (h : document.ReadFrom services networks volumes) {name : String}
    (hname : name ∈ document.services.names) : name ∈ services.map Prod.fst := by
  obtain ⟨⟨name, service⟩, hmem, rfl⟩ := List.mem_map.mp hname
  obtain ⟨-, tree, htree, -⟩ := (h.mem_services_iff name service).mp hmem
  exact List.mem_map_of_mem htree

/-- What stands beside the services is read in one way only. -/
theorem ReadFrom.others_eq {services' : List (String × Tree)}
    (h : document.ReadFrom services networks volumes)
    (hother : other.ReadFrom services' networks volumes) :
    other.networks = document.networks ∧ other.volumes = document.volumes := by
  obtain ⟨shapes, hshapes, hdocument⟩ := h.networks
  obtain ⟨shapes', hshapes', hnetworks⟩ := hother.networks
  obtain rfl := Checked.valid.inj (hshapes.symm.trans hshapes')
  obtain ⟨held, hheld, hvolumes⟩ := h.volumes
  obtain ⟨held', hheld', hvolumes'⟩ := hother.volumes
  obtain rfl := Checked.valid.inj (hheld.symm.trans hheld')
  exact ⟨hnetworks.trans hdocument.symm, hvolumes'.trans hvolumes.symm⟩

end Document

/-! ## Services of two manifests -/

namespace Manifest

/-- A manifest whose services are those of two manifests, which declare them under different keys
and have the same networks and volumes. -/
structure Unites (whole first second : Tree) : Prop where
  services : ∃ all one other, whole.services? = some all ∧ first.services? = some one ∧
    second.services? = some other ∧ (one.map Prod.fst).Disjoint (other.map Prod.fst) ∧
    all.Perm (one ++ other)
  networks : first.child? (.key "networks") = whole.child? (.key "networks") ∧
    second.child? (.key "networks") = whole.child? (.key "networks")
  volumes : first.child? (.key "volumes") = whole.child? (.key "volumes") ∧
    second.child? (.key "volumes") = whole.child? (.key "volumes")

/-- What is found in a mapping under a key that stands at its head or not at all. -/
theorem child?_mapping_cons {name key : String} {value : Tree} {rest : List (String × Tree)}
    (h : name ∉ rest.map Prod.fst) :
    (Tree.mapping ((name, value) :: rest)).child? (.key key) =
      if key = name then some value else rest.reverse.lookup key := by
  have hnone : rest.reverse.lookup name = none := by
    rw [List.lookup_eq_none_iff]
    intro entry hentry
    refine bne_iff_ne.mpr fun hname => h ?_
    exact hname ▸ List.mem_map_of_mem (List.mem_reverse.mp hentry)
  rw [Tree.child?, Tree.entries?_mapping, Option.bind_some, lookup_readingOrder, List.reverse_cons,
    List.lookup_append, lookup_cons_eq_ite]
  by_cases hkey : key = name
  · simp [hkey, hnone]
  · simp [hkey]

/-- **Mappings of services with different keys may be put together**, whatever stands beside
them. -/
theorem unites_mapping {one other rest : List (String × Tree)}
    (h : (one.map Prod.fst).Disjoint (other.map Prod.fst))
    (hrest : "services" ∉ rest.map Prod.fst) :
    Unites (.mapping (("services", .mapping (one ++ other)) :: rest))
      (.mapping (("services", .mapping one) :: rest))
      (.mapping (("services", .mapping other) :: rest)) := by
  have hservices : ∀ entries : List (String × Tree),
      (Tree.mapping (("services", .mapping entries) :: rest)).services? =
        some (readingOrder entries) := by
    intro entries
    rw [Tree.services?, child?_mapping_cons hrest]
    rfl
  have hothers : ∀ (entries entries' : List (String × Tree)) (key : String), key ≠ "services" →
      (Tree.mapping (("services", .mapping entries) :: rest)).child? (.key key) =
        (Tree.mapping (("services", .mapping entries') :: rest)).child? (.key key) := by
    intro entries entries' key hkey
    rw [child?_mapping_cons hrest, child?_mapping_cons hrest, if_neg hkey, if_neg hkey]
  refine ⟨⟨_, _, _, hservices _, hservices _, hservices _, ?_, readingOrder_append_perm h⟩,
    ⟨hothers _ _ _ (by decide), hothers _ _ _ (by decide)⟩,
    hothers _ _ _ (by decide), hothers _ _ _ (by decide)⟩
  intro key hone hother
  obtain ⟨entry, hmem, rfl⟩ := List.mem_map.mp hone
  obtain ⟨entry', hmem', hkey⟩ := List.mem_map.mp hother
  exact h (key_mem_of_mem_readingOrder hmem) (hkey ▸ key_mem_of_mem_readingOrder hmem')

end Manifest

namespace Document

variable {path : String} {whole first second : Tree} {both one other : Document}

/-- Under a name that the second document lacks, the document of both holds what the first does. -/
theorem get?_unites (h : Engine.Unites both one other) {name : String}
    (hname : name ∉ other.services.names) :
    both.services.get? name = one.services.get? name := by
  have hnone : other.services.entries.lookup name = none := by
    rw [List.lookup_eq_none_iff]
    exact fun entry hentry => bne_iff_ne.mpr fun heq => hname (heq ▸ List.mem_map_of_mem hentry)
  rw [Table.get?, Table.get?, lookup_perm both.services.nodup h.services, List.lookup_append, hnone,
    Option.or_none]

/-- **The services of both documents are in the document of both manifests.** -/
theorem unites_of_ofTree (h : Manifest.Unites whole first second)
    (hboth : ofTree path (some whole) = .ok both) (hone : ofTree path (some first) = .ok one)
    (hother : ofTree path (some second) = .ok other) :
    Engine.Unites both one other ∧ one.volumes = both.volumes ∧ other.volumes = both.volumes := by
  obtain ⟨all, left, right, hall, hleft, hright, hdisjoint, hperm⟩ := h.services
  obtain ⟨hpath, hread⟩ := readFrom_of_ofTree hall hboth
  obtain ⟨hpathOne, hreadOne⟩ := readFrom_of_ofTree hleft hone
  obtain ⟨hpathOther, hreadOther⟩ := readFrom_of_ofTree hright hother
  rw [h.networks.1, h.volumes.1] at hreadOne
  rw [h.networks.2, h.volumes.2] at hreadOther
  obtain ⟨hnetworksOne, hvolumesOne⟩ := hread.others_eq hreadOne
  obtain ⟨hnetworksOther, hvolumesOther⟩ := hread.others_eq hreadOther
  have hnames : one.services.names.Disjoint other.services.names := fun name hname hname' =>
    hdisjoint (hreadOne.key_mem hname) (hreadOther.key_mem hname')
  have hnodup : ((one.services.entries ++ other.services.entries).map Prod.fst).Nodup := by
    rw [List.map_append]
    exact one.services.nodup.append other.services.nodup hnames
  -- A service of the document is read of an entry of the manifest, and so of an entry of a part.
  have hmem : ∀ entry, entry ∈ both.services.entries ↔
      entry ∈ one.services.entries ++ other.services.entries := by
    rintro ⟨name, service⟩
    rw [List.mem_append, hread.mem_services_iff, hreadOne.mem_services_iff,
      hreadOther.mem_services_iff, ← and_or_left, ← exists_or]
    simp only [hperm.mem_iff, List.mem_append, or_and_right]
  exact ⟨⟨⟨hpathOne.trans hpath.symm, hpathOther.trans hpath.symm⟩,
    ⟨hnetworksOne, hnetworksOther⟩, hnames, perm_of_mem_iff both.services.nodup hnodup hmem⟩,
    hvolumesOne, hvolumesOther⟩

/-- **Services are read independently of each other.** A manifest that holds the services of two
manifests is accepted exactly when both are. Then its document holds the services of both
documents, each as it is in the part that declares it, and all three documents have the same
networks and volumes. -/
theorem ofTree_unites (h : Manifest.Unites whole first second) (path : String) :
    ((∃ both, ofTree path (some whole) = .ok both) ↔
      (∃ one, ofTree path (some first) = .ok one) ∧
        ∃ other, ofTree path (some second) = .ok other) ∧
    ∀ both one other, ofTree path (some whole) = .ok both → ofTree path (some first) = .ok one →
      ofTree path (some second) = .ok other →
        Engine.Unites both one other ∧
        (one.volumes = both.volumes ∧ other.volumes = both.volumes) ∧
        (∀ name ∈ first.keysUnder "services",
          both.services.get? name = one.services.get? name) ∧
        ∀ name ∈ second.keysUnder "services",
          both.services.get? name = other.services.get? name := by
  obtain ⟨all, left, right, hall, hleft, hright, hdisjoint, hperm⟩ := h.services
  constructor
  · rw [exists_ofTree_iff_takes hall, exists_ofTree_iff_takes hleft, exists_ofTree_iff_takes hright,
      h.networks.1, h.networks.2, h.volumes.1, h.volumes.2, ← and_and_right,
      ← List.forall_mem_append]
    simp only [hperm.mem_iff]
  · intro both one other hboth hone hother
    obtain ⟨hunites, hvolumes⟩ := unites_of_ofTree h hboth hone hother
    refine ⟨hunites, hvolumes, fun name hname => get?_unites hunites fun hmem => ?_,
      fun name hname => get?_unites hunites.symm fun hmem => ?_⟩
    · rw [Tree.keysUnder_services hleft] at hname
      exact hdisjoint hname ((readFrom_of_ofTree hright hother).2.key_mem hmem)
    · rw [Tree.keysUnder_services hright] at hname
      exact hdisjoint ((readFrom_of_ofTree hleft hone).2.key_mem hmem) hname

/-- A manifest with some services and a network. -/
def declaring (services : List (String × Tree)) : Tree :=
  .mapping [("services", .mapping services), ("networks", .mapping [("edge", .null)])]

/-- A service that runs as a user. -/
def rootService : Tree := .mapping [("user", .text "0")]

/-- A service named by a number is read before one that stands before it, and is the same. -/
theorem ofTree_unites_declaring :
    Manifest.Unites (declaring [("web", .null), ("7", rootService)]) (declaring [("web", .null)])
      (declaring [("7", rootService)]) ∧
    ∃ both one other,
      ofTree "compose.yml" (some (declaring [("web", .null), ("7", rootService)])) = .ok both ∧
      ofTree "compose.yml" (some (declaring [("web", .null)])) = .ok one ∧
      ofTree "compose.yml" (some (declaring [("7", rootService)])) = .ok other ∧
      Engine.Unites both one other ∧
      both.services.names = ["7", "web"] ∧
      both.services.get? "7" = other.services.get? "7" := by
  have hkeys : ([("web", .null)] : List (String × Tree)).map Prod.fst |>.Disjoint
      ([("7", rootService)].map Prod.fst) := List.disjoint_singleton.mpr (by decide)
  have hunites : Manifest.Unites (declaring [("web", .null), ("7", rootService)])
      (declaring [("web", .null)]) (declaring [("7", rootService)]) :=
    Manifest.unites_mapping hkeys (by decide)
  obtain ⟨haccepted, hread⟩ := ofTree_unites hunites "compose.yml"
  have hone : ofTree "compose.yml" (some (declaring [("web", .null)])) = .ok _ := rfl
  have hother : ofTree "compose.yml" (some (declaring [("7", rootService)])) = .ok _ := rfl
  obtain ⟨both, hboth⟩ := haccepted.mpr ⟨⟨_, hone⟩, _, hother⟩
  obtain ⟨hdocuments, -, -, hget⟩ := hread both _ _ hboth hone hother
  have hnames : both.services.names = ["7", "web"] := by
    cases hboth
    decide
  exact ⟨hunites, both, _, _, hboth, hone, hother, hdocuments, hnames,
    hget "7" (by decide +kernel)⟩

end Document

end ComposeLint
