import ComposeLint.Manifest.Reading
import ComposeLint.Proofs.Acceptance

/-!
# Which trees are manifests

A tree is a manifest when its shape is right and every service in it can be reduced. The
two conditions are put together here, from the fields up: what is demanded of a volume, a port and
a service, each as a demand on the named fields, and at last of the whole tree (`ofTree_eq_ok_iff`).
-/

namespace ComposeLint

/-! ## Reading one after another -/

section Except

variable {ε α β γ : Type} {f : α → Except ε β}

theorem bind_eq_ok_iff {x : Except ε α} {b : β} :
    x >>= f = .ok b ↔ ∃ a, x = .ok a ∧ f a = .ok b := by
  cases x <;> simp [bind, Except.bind]

theorem map_eq_ok_iff {g : α → γ} {x : Except ε α} {c : γ} :
    x.map g = .ok c ↔ ∃ a, x = .ok a ∧ g a = c := by
  cases x <;> simp [Except.map]

/-- A list is read when each of its items is, and every item gives its own result. -/
theorem mapM_eq_ok_iff {xs : List α} {ys : List β} :
    xs.mapM f = .ok ys ↔ List.Forall₂ (fun x y => f x = .ok y) xs ys := by
  induction xs generalizing ys with
  | nil =>
    rw [List.mapM_nil, List.forall₂_nil_left_iff]
    exact ⟨fun h => by cases h; rfl, fun h => by rw [h]; rfl⟩
  | cons x xs ih =>
    rw [List.mapM_cons, List.forall₂_cons_left_iff, bind_eq_ok_iff]
    constructor
    · rintro ⟨y, hy, h⟩
      obtain ⟨others, hothers, h⟩ := bind_eq_ok_iff.mp h
      exact ⟨y, others, hy, ih.mp hothers, by cases h; rfl⟩
    · rintro ⟨y, others, hy, hothers, rfl⟩
      exact ⟨y, hy, bind_eq_ok_iff.mpr ⟨others, ih.mpr hothers, rfl⟩⟩

theorem exists_mapM_eq_ok_iff {xs : List α} :
    (∃ ys, xs.mapM f = .ok ys) ↔ ∀ x ∈ xs, ∃ y, f x = .ok y := by
  simp only [mapM_eq_ok_iff]
  constructor
  · rintro ⟨ys, h⟩
    induction h with
    | nil => simp
    | cons hxy _ ih => exact List.forall_mem_cons.mpr ⟨⟨_, hxy⟩, ih⟩
  · intro h
    induction xs with
    | nil => exact ⟨[], .nil⟩
    | cons x xs ih =>
      rw [List.forall_mem_cons] at h
      obtain ⟨y, hy⟩ := h.1
      obtain ⟨ys, hys⟩ := ih h.2
      exact ⟨y :: ys, .cons hy hys⟩

end Except

open Check

namespace Manifest

/-! ## Reducing -/

theorem exists_orFault_eq_ok_iff {α : Type} {fault : ManifestFault} {result : Option α} :
    (∃ value, orFault fault result = .ok value) ↔ result.isSome := by
  cases result <;> simp [orFault]

/-- **A service is reduced** when its restart policy, its volumes and its ports are read. -/
theorem exists_reduceService_eq_ok_iff {name : String} {shape : ServiceShape} :
    (∃ service, reduceService name shape = .ok service) ↔
      (∃ setting, restart name shape.restart = .ok setting) ∧
        (∀ volume ∈ shape.volumes, ∃ m, mount name volume = .ok m) ∧
          ∀ port ∈ shape.ports, ∃ b, binding name port = .ok b := by
  rw [← exists_mapM_eq_ok_iff, ← exists_mapM_eq_ok_iff]
  simp only [reduceService, bind_eq_ok_iff]
  constructor
  · rintro ⟨_, setting, hsetting, mounts, hmounts, bindings, hbindings, -⟩
    exact ⟨⟨setting, hsetting⟩, ⟨mounts, hmounts⟩, bindings, hbindings⟩
  · rintro ⟨⟨setting, hsetting⟩, ⟨mounts, hmounts⟩, bindings, hbindings⟩
    exact ⟨_, setting, hsetting, mounts, hmounts, bindings, hbindings, rfl⟩

/-- **A manifest is reduced** when its services are. -/
theorem exists_reduce_eq_ok_iff {path : String} {shape : ManifestShape} :
    (∃ document, reduce path shape = .ok document) ↔
      ∀ services ∈ shape.services, ∀ entry ∈ services, ∃ service,
        reduceService entry.1 (entry.2.getD {}) = .ok service := by
  rw [reduce]
  cases shape.services with
  | none => simp
  | some services =>
    have hentry : ∀ entry : String × Option ServiceShape,
        (∃ result, reduceEntry entry = .ok result) ↔
          ∃ service, reduceService entry.1 (entry.2.getD {}) = .ok service := by
      intro entry
      cases h : reduceService entry.1 (entry.2.getD {}) <;> simp [reduceEntry, Except.map, h]
    simp only [map_eq_ok_iff, Option.mem_some_iff, forall_eq', ← hentry]
    rw [← exists_mapM_eq_ok_iff]
    constructor
    · rintro ⟨_, reduced, hreduced, -⟩
      exact ⟨reduced, hreduced⟩
    · rintro ⟨reduced, hreduced⟩
      exact ⟨_, reduced, hreduced, rfl⟩

/-! ## Fields that need nothing but their shape -/

theorem accepts_listOrNothing_iff {α : Type} {check : Check α} {P : α → Prop}
    {found : Option Tree} :
    Accepts (listOrNothing check) (fun values => ∀ value ∈ values, P value) found ↔
      (Accepts check P).items.orNull found := by
  rw [listOrNothing, accepts_mapped, accepts_nullish_iff (by simp)]
  simp only [Demand.orNull, Option.getD_some, accepts_list_iff]

theorem accepts_orNull_iff {α : Type} {check : Check α} {P : Option α → Prop} (hnone : P none)
    (hnull : ¬ Accepts check (fun _ => True) (some .null)) {tree : Tree} :
    Accepts (orNull check) P (some tree) ↔
      (Accepts check fun value => P (some value)).orNull (some tree) := by
  rw [orNull, accepts_either_pair, accepts_mapped, accepts_mapped, accepts_nothing_iff,
    Demand.orNull]
  · simp [hnone, or_comm]
  · intro haccepts hnothing
    rw [accepts_mapped, accepts_nothing_iff] at hnothing
    rw [accepts_mapped, hnothing.1] at haccepts
    exact hnull haccepts

/-! ## Fields in two ways of writing -/

theorem accepts_environment_iff {found : Option Tree} :
    Accepts environment (fun _ => True) found ↔
      (Accepts scalar fun _ => True).items found ∨
        Demand.entries (fun _ => Accepts (orNull scalar) fun _ => True) found := by
  rw [environment, accepts_either_pair, accepts_mapped, accepts_mapped, accepts_list_true_iff,
    accepts_record_true_iff]
  · rfl
  · intro hlist hrecord
    rw [accepts_mapped, accepts_list_true_iff] at hlist
    rw [accepts_mapped, accepts_record_true_iff] at hrecord
    exact hlist.not_entries hrecord

theorem accepts_names_iff {found : Option Tree} :
    Accepts names (fun _ => True) found ↔
      (Accepts text fun _ => True).items found ∨ Demand.entries (fun _ _ => True) found := by
  rw [names, accepts_either_pair, accepts_mapped, accepts_list_true_iff, accepts_anyRecord_iff]
  intro hlist hrecord
  rw [accepts_list_true_iff] at hlist
  rw [accepts_mapped, accepts_anyRecord_iff] at hrecord
  exact hlist.not_entries hrecord

/-! ## Health checks and networks -/

/-- What is demanded of a health check. -/
def healthcheckFields : List (String × Demand) :=
  [("test", Accepts (nullish (either [mapped some text, mapped List.head? (list text)]))
      fun _ => True),
    ("disable", Accepts (nullish flag) fun _ => True)]

theorem accepts_healthcheck_iff {found : Option Tree} :
    Accepts healthcheck (fun _ => True) found ↔ Demand.fields healthcheckFields found := by
  rw [healthcheck, accepts_object_iff, Demand.fields]
  refine exists_congr fun entries => and_congr_right fun _ => ?_
  simp only [Checked.meets_seq, Checked.meets_fmap, meets_field, healthcheckFields,
    List.forall_mem_cons, List.not_mem_nil, false_imp_iff, implies_true, and_true]
  constructor
  · rintro ⟨test, htest, disable, hdisable, -⟩
    exact ⟨⟨test, htest, trivial⟩, ⟨disable, hdisable, trivial⟩⟩
  · rintro ⟨⟨test, htest, -⟩, ⟨disable, hdisable, -⟩⟩
    exact ⟨test, htest, disable, hdisable, trivial⟩

/-- What is demanded of a declared network. -/
def networkFields : List (String × Demand) :=
  [("external", Accepts (nullish (either [flag, mapped (fun _ => true) anyRecord])) fun _ => True),
    ("driver", Accepts (nullish text) fun _ => True)]

theorem accepts_network_iff {found : Option Tree} :
    Accepts network (fun _ => True) found ↔ Demand.fields networkFields found := by
  rw [network, accepts_object_iff, Demand.fields]
  refine exists_congr fun entries => and_congr_right fun _ => ?_
  simp only [Checked.meets_seq, Checked.meets_fmap, meets_field, networkFields,
    List.forall_mem_cons, List.not_mem_nil, false_imp_iff, implies_true, and_true]
  constructor
  · rintro ⟨isExternal, hexternal, driver, hdriver, -⟩
    exact ⟨⟨isExternal, hexternal, trivial⟩, ⟨driver, hdriver, trivial⟩⟩
  · rintro ⟨⟨isExternal, hexternal, -⟩, ⟨driver, hdriver, -⟩⟩
    exact ⟨isExternal, hexternal, driver, hdriver, trivial⟩

/-! ## Volumes -/

/-- What is demanded of a volume in the long form. -/
def volumeFields : List (String × Demand) :=
  [("type", Accepts (optional text) fun _ => True),
    ("source", Accepts (nullish text) fun _ => True),
    ("target", Accepts text fun _ => True),
    ("read_only", Accepts (nullish flag) fun _ => True)]

/-- **A volume is accepted** as a text that is a mount, or by its fields. -/
theorem accepts_volume_iff {service : String} {kept : Prop} {found : Option Tree} :
    Accepts volume (fun shape => kept → ∃ m, mount service shape = .ok m) found ↔
      Accepts text (fun s => kept → (Mount.parse? s).isSome) found ∨
        Demand.fields volumeFields found := by
  rw [volume, accepts_either_pair]
  · refine or_congr ?_ ?_
    · rw [accepts_mapped]
      simp only [mount, exists_orFault_eq_ok_iff]
    · rw [accepts_object_iff, Demand.fields]
      refine exists_congr fun entries => and_congr_right fun _ => ?_
      simp only [Checked.meets_seq, Checked.meets_fmap, meets_field, volumeFields,
        List.forall_mem_cons, List.not_mem_nil, false_imp_iff, implies_true, and_true]
      constructor
      · rintro ⟨type, htype, source, hsource, target, htarget, readOnly, hreadOnly, -⟩
        exact ⟨⟨type, htype, trivial⟩, ⟨source, hsource, trivial⟩, ⟨target, htarget, trivial⟩,
          ⟨readOnly, hreadOnly, trivial⟩⟩
      · rintro ⟨⟨type, htype, -⟩, ⟨source, hsource, -⟩, ⟨target, htarget, -⟩,
          ⟨readOnly, hreadOnly, -⟩⟩
        exact ⟨type, htype, source, hsource, target, htarget, readOnly, hreadOnly,
          fun _ => ⟨_, rfl⟩⟩
  · intro htext hobject
    rw [accepts_mapped] at htext
    exact not_accepts_object_of_text htext hobject

/-! ## Ports -/

theorem nodup_of_bind_entries? {found : Option Tree} {entries : List (String × Tree)}
    (h : found.bind Tree.entries? = some entries) : (entries.map Prod.fst).Nodup := by
  obtain ⟨tree, -, hentries⟩ := Option.bind_eq_some_iff.mp h
  exact Tree.nodup_entries? hentries

/-- A side of a long port that a binding can be made of. -/
def portSideReads (s : String) : Prop := (PortSide.parse? s.toList).isSome

/-- What is demanded of the fields of a port. -/
def portFields (kept : Prop) : List (String × Demand) :=
  [("target", Accepts portSide fun s => kept → portSideReads s),
    ("published", Accepts (nullish portSide) fun published =>
      kept → ∀ s ∈ published, s = "" ∨ portSideReads s),
    ("host_ip", Accepts (nullish text) fun _ => True),
    ("protocol", Accepts (nullish text) fun _ => True),
    ("mode", Accepts (nullish text) fun _ => True)]

/-- That there is no circle in what a port holds, as a demand on its entries. -/
def portEntries (kept : Prop) : Demand :=
  Demand.entries fun key found => kept → key ≠ reservedKey → ∀ tree ∈ found,
    Tree.circleFrom? [⟨.key "", false, none⟩] (.key key) none tree = none

theorem isSome_ofLong?_iff (long : LongPort) :
    (PortBinding.ofLong? long).isSome ↔
      portSideReads long.target ∧ ∀ s ∈ long.published, s = "" ∨ portSideReads s := by
  rw [PortBinding.ofLong?, PortBinding.ofParts?]
  cases long.published with
  | none => cases h : PortSide.parse? long.target.toList <;> simp [portSideReads, h]
  | some published =>
    by_cases hempty : published = ""
    · subst hempty
      cases h : PortSide.parse? long.target.toList <;> simp [portSideReads, h]
    · have hchars : published.toList.isEmpty = false := by simpa using hempty
      cases h : PortSide.parse? long.target.toList <;>
        cases h' : PortSide.parse? published.toList <;>
          simp [portSideReads, h, h', hempty]

/-- What is shown of a port is every entry but that of the reserved key. -/
theorem mem_shownEntries {entries : List (String × Tree)} (h : (entries.map Prod.fst).Nodup)
    (entry : String × Tree) :
    entry ∈ shownEntries entries ↔ entry ∈ entries ∧ entry.1 ≠ reservedKey := by
  have hreserved : reservedKey ∉ portKeys := by decide
  obtain ⟨key, value⟩ := entry
  have hread : (key, value) ∈ portKeys.filterMap
      (fun key => (entries.lookup key).map fun value => (key, value)) ↔
        key ∈ portKeys ∧ (key, value) ∈ entries := by
    simp [List.mem_filterMap, ← lookup_eq_some_iff_mem h]
  rw [shownEntries, List.mem_append, hread, List.mem_filter]
  simp only [Bool.and_eq_true, Bool.not_eq_true', List.contains_iff_mem, bne_iff_ne, ne_eq,
    Bool.eq_false_iff]
  constructor
  · rintro (⟨hkey, hmem⟩ | ⟨hmem, -, hne⟩)
    · exact ⟨hmem, fun heq => hreserved (heq ▸ hkey)⟩
    · exact ⟨hmem, hne⟩
  · rintro ⟨hmem, hne⟩
    by_cases hkey : key ∈ portKeys
    · exact .inl ⟨hkey, hmem⟩
    · exact .inr ⟨hmem, hkey, hne⟩

theorem nodup_shownEntries {entries : List (String × Tree)} (h : (entries.map Prod.fst).Nodup) :
    ((shownEntries entries).map Prod.fst).Nodup := by
  -- The keys that are read stand first, each at most once, and the others are not among them.
  have hread : ∀ keys : List String, ((keys.filterMap fun key =>
      (entries.lookup key).map fun value => (key, value)).map Prod.fst).Sublist keys := by
    intro keys
    induction keys with
    | nil => exact .slnil
    | cons key keys ih => cases hvalue : entries.lookup key <;> simp [hvalue, ih]
  rw [shownEntries, List.map_append, List.nodup_append]
  refine ⟨(hread portKeys).nodup (by decide), h.sublist (List.filter_sublist.map _), ?_⟩
  rintro key hkey _ hother rfl
  obtain ⟨entry, hentry, rfl⟩ := List.mem_map.mp hother
  have hmem := (hread portKeys).subset hkey
  simp [List.mem_filter, hmem] at hentry

/-- **A port can be shown** when no value in it leads back to where it stands. -/
theorem circle?_shownEntries_eq_none_iff {entries : List (String × Tree)}
    (h : (entries.map Prod.fst).Nodup) :
    (Tree.mapping (shownEntries entries)).circle? = none ↔
      ∀ entry ∈ entries, entry.1 ≠ reservedKey →
        Tree.circleFrom? [⟨.key "", false, none⟩] (.key entry.1) none entry.2 = none := by
  rw [Tree.circle?, Tree.circleFrom?_mapping_eq_none_iff (nodup_shownEntries h)]
  simp only [mem_shownEntries h, and_imp]

/-- **A port in the long form is read** when nothing in it stands inside itself and its sides are
read. -/
theorem exists_binding_long_eq_ok_iff {service : String} {target : String}
    {published hostInterface protocol : Option String} {entries : List (String × Tree)}
    (h : (entries.map Prod.fst).Nodup) :
    (∃ b, binding service (.long ⟨target, published, hostInterface, protocol,
        shownEntries entries⟩) = .ok b) ↔
      (∀ entry ∈ entries, entry.1 ≠ reservedKey →
        Tree.circleFrom? [⟨.key "", false, none⟩] (.key entry.1) none entry.2 = none) ∧
      portSideReads target ∧ ∀ s ∈ published, s = "" ∨ portSideReads s := by
  have hsides := isSome_ofLong?_iff
    ⟨target, published, hostInterface, protocol, shownEntries entries⟩
  rw [← circle?_shownEntries_eq_none_iff h, ← hsides]
  simp only [binding]
  cases hshown : (Tree.mapping (shownEntries entries)).circle? with
  | none => simp [exists_orFault_eq_ok_iff]
  | some circle => simp

/-- What is demanded of a port in the short form. -/
def shortPort (kept : Prop) : Demand := fun found =>
  Accepts whole (fun n => kept → (PortBinding.parse? n.text).isSome) found ∨
    Accepts text (fun s => kept → (PortBinding.parse? s).isSome) found

/-- What is demanded of a port in the long form. It is shown before it is read, so there must be no
circle in what it holds. -/
def longPort (kept : Prop) : Demand := fun found =>
  ∃ entries, found.bind Tree.entries? = some entries ∧
    (∀ field ∈ portFields kept, field.2 (entries.lookup field.1)) ∧
      ∀ entry ∈ entries, kept → entry.1 ≠ reservedKey →
        Tree.circleFrom? [⟨.key "", false, none⟩] (.key entry.1) none entry.2 = none

/-- Both demands are made of the same entries. -/
theorem longPort_iff {kept : Prop} {found : Option Tree} :
    longPort kept found ↔ Demand.fields (portFields kept) found ∧ portEntries kept found := by
  constructor
  · rintro ⟨entries, hentries, hfields, hcircle⟩
    refine ⟨⟨entries, hentries, hfields⟩, entries, hentries, ?_⟩
    rintro entry hentry hkept hne _ ⟨⟩
    exact hcircle entry hentry hkept hne
  · rintro ⟨⟨entries, hentries, hfields⟩, entries', hentries', hcircle⟩
    obtain rfl := Option.some.inj (hentries.symm.trans hentries')
    exact ⟨entries, hentries, hfields, fun entry hentry hkept hne =>
      hcircle entry hentry hkept hne _ rfl⟩

/-- The fields of a port are accepted one by one, and the port that they make is then read. -/
theorem accepts_portFields_iff {service : String} {kept : Prop} {entries : List (String × Tree)}
    (h : (entries.map Prod.fst).Nodup) :
    Accepts portSide (fun target =>
      Accepts (nullish portSide) (fun published =>
        Accepts (nullish text) (fun ip =>
          Accepts (nullish text) (fun protocol =>
            Accepts (nullish text) (fun _ => kept → ∃ b, binding service
              (.long ⟨target, published, ip, protocol, shownEntries entries⟩) = .ok b)
              (entries.lookup "mode"))
            (entries.lookup "protocol"))
          (entries.lookup "host_ip"))
        (entries.lookup "published"))
      (entries.lookup "target") ↔
      (∀ field ∈ portFields kept, field.2 (entries.lookup field.1)) ∧
        ∀ entry ∈ entries, kept → entry.1 ≠ reservedKey →
          Tree.circleFrom? [⟨.key "", false, none⟩] (.key entry.1) none entry.2 = none := by
  simp only [exists_binding_long_eq_ok_iff h, portFields, List.forall_mem_cons, List.not_mem_nil,
    false_imp_iff, implies_true, and_true]
  constructor
  · rintro ⟨target, htarget, published, hpublished, ip, hip, protocol, hprotocol, mode, hmode,
      hread⟩
    refine ⟨⟨⟨target, htarget, fun hkept => (hread hkept).2.1⟩,
      ⟨published, hpublished, fun hkept => (hread hkept).2.2⟩, ⟨ip, hip, trivial⟩,
      ⟨protocol, hprotocol, trivial⟩, ⟨mode, hmode, trivial⟩⟩, fun entry hentry hkept => ?_⟩
    exact (hread hkept).1 entry hentry
  · rintro ⟨⟨⟨target, htarget, hreadTarget⟩, ⟨published, hpublished, hreadPublished⟩,
      ⟨ip, hip, -⟩, ⟨protocol, hprotocol, -⟩, ⟨mode, hmode, -⟩⟩, hcircle⟩
    refine ⟨target, htarget, published, hpublished, ip, hip, protocol, hprotocol, mode, hmode,
      fun hkept => ?_⟩
    exact ⟨fun entry hentry => hcircle entry hentry hkept, hreadTarget hkept,
      hreadPublished hkept⟩

/-- **A port is accepted** as a number or a text that is a binding, or by its fields. -/
theorem accepts_port_iff {service : String} {kept : Prop} {found : Option Tree} :
    Accepts port (fun shape => kept → ∃ b, binding service shape = .ok b) found ↔
      shortPort kept found ∨ longPort kept found := by
  rw [shortPort, port, accepts_either_cons_of_disjoint, accepts_either_pair, ← or_assoc]
  · refine or_congr (or_congr ?_ ?_) ?_
    · rw [accepts_mapped]
      simp only [binding, exists_orFault_eq_ok_iff]
    · rw [accepts_mapped]
      simp only [binding, exists_orFault_eq_ok_iff]
    · rw [accepts_object_iff, longPort]
      refine exists_congr fun entries => and_congr_right fun hentries => ?_
      simp only [Checked.meets_seq, Checked.meets_fmap, meets_field]
      exact accepts_portFields_iff (nodup_of_bind_entries? hentries)
  · intro htext hobject
    rw [accepts_mapped] at htext
    exact not_accepts_object_of_text htext hobject
  · intro hwhole hothers
    rw [accepts_mapped] at hwhole
    obtain ⟨n, rfl⟩ := exists_number_of_accepts_whole hwhole
    rw [accepts_either_cons, accepts_either_singleton, accepts_mapped,
      accepts_object_iff] at hothers
    obtain ⟨value, hvalue, -⟩ | ⟨-, entries, hentries, -⟩ := hothers
    · cases hvalue
    · cases hentries

/-! ## Services -/

/-- What is demanded of a service. Of a service that is not kept only the shape is looked at. -/
def serviceFields (name : String) (kept : Prop) : List (String × Demand) :=
  [("image", Accepts (nullish text) fun _ => True),
    ("privileged", Accepts (nullish (either [flagScalar, textScalar])) fun _ => True),
    ("cap_add", Accepts (listOrNothing text) fun _ => True),
    ("command", Accepts (nullish command) fun _ => True),
    ("network_mode", Accepts (nullish text) fun _ => True),
    ("volumes", Accepts (listOrNothing volume) fun volumes =>
      ∀ shape ∈ volumes, kept → ∃ m, mount name shape = .ok m),
    ("environment", Accepts (nullish environment) fun _ => True),
    ("user", Accepts (nullish (either [textScalar, numberScalar])) fun _ => True),
    ("security_opt", Accepts (listOrNothing text) fun _ => True),
    ("ports", Accepts (listOrNothing port) fun ports =>
      ∀ shape ∈ ports, kept → ∃ b, binding name shape = .ok b),
    ("restart", Accepts (nullish (either [textScalar, flagScalar])) fun written =>
      kept → ∃ setting, restart name written = .ok setting),
    ("networks", Accepts namesOrNothing fun _ => True),
    ("depends_on", Accepts namesOrNothing fun _ => True),
    ("healthcheck", Accepts (nullish healthcheck) fun _ => True)]

/-- **A service is accepted field by field.** -/
theorem accepts_service_iff {name : String} {kept : Prop} {found : Option Tree} :
    Accepts service (fun shape => kept → ∃ s, reduceService name shape = .ok s) found ↔
      Demand.fields (serviceFields name kept) found := by
  rw [service, accepts_object_iff, Demand.fields]
  refine exists_congr fun entries => and_congr_right fun _ => ?_
  simp only [Checked.meets_seq, Checked.meets_fmap, meets_field, serviceFields,
    exists_reduceService_eq_ok_iff, List.forall_mem_cons, List.not_mem_nil, false_imp_iff,
    implies_true, and_true]
  constructor
  · rintro ⟨image, himage, privileged, hprivileged, capabilities, hcapabilities, command, hcommand,
      networkMode, hnetworkMode, volumes, hvolumes, environment, henvironment, user, huser,
      securityOptions, hsecurityOptions, ports, hports, restart, hrestart, networks, hnetworks,
      dependsOn, hdependsOn, healthcheck, hhealthcheck, hread⟩
    exact ⟨⟨image, himage, trivial⟩, ⟨privileged, hprivileged, trivial⟩,
      ⟨capabilities, hcapabilities, trivial⟩, ⟨command, hcommand, trivial⟩,
      ⟨networkMode, hnetworkMode, trivial⟩,
      ⟨volumes, hvolumes, fun shape hmem hkept => (hread hkept).2.1 shape hmem⟩,
      ⟨environment, henvironment, trivial⟩, ⟨user, huser, trivial⟩,
      ⟨securityOptions, hsecurityOptions, trivial⟩,
      ⟨ports, hports, fun shape hmem hkept => (hread hkept).2.2 shape hmem⟩,
      ⟨restart, hrestart, fun hkept => (hread hkept).1⟩, ⟨networks, hnetworks, trivial⟩,
      ⟨dependsOn, hdependsOn, trivial⟩, ⟨healthcheck, hhealthcheck, trivial⟩⟩
  · rintro ⟨⟨image, himage, -⟩, ⟨privileged, hprivileged, -⟩, ⟨capabilities, hcapabilities, -⟩,
      ⟨command, hcommand, -⟩, ⟨networkMode, hnetworkMode, -⟩, ⟨volumes, hvolumes, hmounts⟩,
      ⟨environment, henvironment, -⟩, ⟨user, huser, -⟩, ⟨securityOptions, hsecurityOptions, -⟩,
      ⟨ports, hports, hbindings⟩, ⟨restart, hrestart, hsetting⟩, ⟨networks, hnetworks, -⟩,
      ⟨dependsOn, hdependsOn, -⟩, ⟨healthcheck, hhealthcheck, -⟩⟩
    exact ⟨image, himage, privileged, hprivileged, capabilities, hcapabilities, command, hcommand,
      networkMode, hnetworkMode, volumes, hvolumes, environment, henvironment, user, huser,
      securityOptions, hsecurityOptions, ports, hports, restart, hrestart, networks, hnetworks,
      dependsOn, hdependsOn, healthcheck, hhealthcheck, fun hkept =>
        ⟨hsetting hkept, fun shape hmem => hmounts shape hmem hkept,
          fun shape hmem => hbindings shape hmem hkept⟩⟩

/-! ## Manifests -/

/-- What is demanded of a manifest. -/
def manifestFields : List (String × Demand) :=
  [("services", Accepts (nullish (record (orNull service))) fun services =>
      ∀ entries ∈ services, ∀ entry ∈ entries, ∃ s,
        reduceService entry.1 (entry.2.getD {}) = .ok s),
    ("networks", Accepts (nullish (record (orNull network))) fun _ => True),
    ("volumes", Accepts (nullish anyRecord) fun _ => True)]

theorem accepts_manifest_iff (path : String) {found : Option Tree} :
    Accepts manifest (fun shape => ∃ document, reduce path shape = .ok document) found ↔
      Demand.fields manifestFields found := by
  rw [manifest, accepts_object_iff, Demand.fields]
  refine exists_congr fun entries => and_congr_right fun _ => ?_
  simp only [Checked.meets_seq, Checked.meets_fmap, meets_field, manifestFields,
    exists_reduce_eq_ok_iff, List.forall_mem_cons, List.not_mem_nil, false_imp_iff,
    implies_true, and_true]
  constructor
  · rintro ⟨services, hservices, networks, hnetworks, volumes, hvolumes, hread⟩
    exact ⟨⟨services, hservices, hread⟩, ⟨networks, hnetworks, trivial⟩,
      ⟨volumes, hvolumes, trivial⟩⟩
  · rintro ⟨⟨services, hservices, hread⟩, ⟨networks, hnetworks, -⟩, ⟨volumes, hvolumes, -⟩⟩
    exact ⟨services, hservices, networks, hnetworks, volumes, hvolumes, hread⟩

end Manifest

namespace Document

variable {path : String} {tree : Tree}

/-- **Reading a tree** gives the empty document, or what the shape of a mapping is reduced to. -/
theorem ofTree_eq_ok_iff {document : Document} :
    ofTree path (some tree) = .ok document ↔
      (tree = .null ∧ document = .empty path) ∨
        Manifest.isMapping tree = true ∧
          Accepts Manifest.manifest (fun shape => Manifest.reduce path shape = .ok document)
            (some tree) := by
  by_cases hnull : tree = .null
  · subst hnull
    simp [ofTree, Manifest.isMapping, eq_comm]
  · rw [ofTree, Accepts]
    · cases hmapping : Manifest.isMapping tree
      · simp [hnull]
      · cases hshape : Manifest.manifest (some tree) <;> simp [hnull]
    · exact hnull

/-- **Which trees are manifests**: an empty one, and a mapping whose fields are accepted. -/
theorem exists_ofTree_eq_ok_iff :
    (∃ document, ofTree path (some tree) = .ok document) ↔
      tree = .null ∨
        Manifest.isMapping tree = true ∧ Demand.fields Manifest.manifestFields (some tree) := by
  rw [← Manifest.accepts_manifest_iff path]
  simp only [ofTree_eq_ok_iff]
  constructor
  · rintro ⟨document, ⟨hnull, -⟩ | ⟨hmapping, shape, hshape, hreduce⟩⟩
    · exact .inl hnull
    · exact .inr ⟨hmapping, shape, hshape, document, hreduce⟩
  · rintro (hnull | ⟨hmapping, shape, hshape, document, hreduce⟩)
    · exact ⟨_, .inl ⟨hnull, rfl⟩⟩
    · exact ⟨document, .inr ⟨hmapping, shape, hshape, hreduce⟩⟩

end Document

end ComposeLint
