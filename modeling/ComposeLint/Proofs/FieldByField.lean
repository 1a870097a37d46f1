import ComposeLint.Proofs.ServiceByService

/-!
# Reading field by field

A list is read item by item (`Check.list_eq_valid_iff`) and a service field by field
(`Manifest.service_eq_valid_iff`): `ServiceShape.ReadFrom` says of every field of a shape what it is
read of, so a field that changes does not touch the others (`ServiceShape.ReadFrom.set`, for any
`ServiceField`). The environment is the one field that is read as a table, and `Manifest.Keeps` says
what it holds.
-/

namespace ComposeLint

open Check

variable {α : Type}

/-! ## Collections that may be left out -/

namespace Tree

/-- The items of a list that may be left out or null. -/
def listed? : Option Tree → Option (List Tree)
  | none | some .null => some []
  | some tree => tree.items?

/-- The entries of a mapping that may be left out or null. -/
def declared? : Option Tree → Option (List (String × Tree))
  | none | some .null => some []
  | some tree => tree.entries?

theorem listed?_of_ne_null {tree : Tree} (h : tree ≠ .null) :
    listed? (some tree) = tree.items? := by
  cases tree <;> first | rfl | exact absurd rfl h

theorem declared?_of_ne_null {tree : Tree} (h : tree ≠ .null) :
    declared? (some tree) = tree.entries? := by
  cases tree <;> first | rfl | exact absurd rfl h

variable {found : Option Tree} {entries : List (String × Tree)}

/-- What has entries has declared them. -/
theorem declared?_of_entries? (h : found.bind Tree.entries? = some entries) :
    declared? found = some entries := by
  obtain ⟨tree, rfl, hentries⟩ := Option.bind_eq_some_iff.mp h
  have htree : tree ≠ .null := by rintro rfl; cases hentries
  rw [declared?_of_ne_null htree, hentries]

/-- What has items has listed them. -/
theorem listed?_of_items? {items : List Tree} (h : found.bind Tree.items? = some items) :
    listed? found = some items := by
  obtain ⟨tree, rfl, hitems⟩ := Option.bind_eq_some_iff.mp h
  have htree : tree ≠ .null := by rintro rfl; cases hitems
  rw [listed?_of_ne_null htree, hitems]

/-- A list that is left out or null has no items. -/
theorem listed?_cases {items : List Tree} (h : listed? found = some items) :
    ((found = none ∨ found = some .null) ∧ items = []) ∨
      ∃ tree, found = some tree ∧ tree ≠ .null ∧ tree.items? = some items := by
  match found, h with
  | none, rfl => exact .inl ⟨.inl rfl, rfl⟩
  | some tree, h =>
    by_cases htree : tree = .null
    · subst htree
      cases h
      exact .inl ⟨.inr rfl, rfl⟩
    · exact .inr ⟨tree, rfl, htree, (listed?_of_ne_null htree).symm.trans h⟩

/-- A mapping that is left out or null has no entries. -/
theorem declared?_cases (h : declared? found = some entries) :
    ((found = none ∨ found = some .null) ∧ entries = []) ∨
      ∃ tree, found = some tree ∧ tree ≠ .null ∧ tree.entries? = some entries := by
  match found, h with
  | none, rfl => exact .inl ⟨.inl rfl, rfl⟩
  | some tree, h =>
    by_cases htree : tree = .null
    · subst htree
      cases h
      exact .inl ⟨.inr rfl, rfl⟩
    · exact .inr ⟨tree, rfl, htree, (declared?_of_ne_null htree).symm.trans h⟩

/-- What is declared are the entries of a mapping, unless there is none. -/
theorem entries?_of_declared? (h : declared? found = some entries) (hnone : found ≠ none)
    (hnull : found ≠ some .null) : found.bind Tree.entries? = some entries := by
  obtain ⟨tree, rfl⟩ := Option.ne_none_iff_exists'.mp hnone
  rwa [declared?_of_ne_null fun htree => hnull (congrArg some htree)] at h

theorem nodup_declared? (h : declared? found = some entries) : (entries.map Prod.fst).Nodup := by
  unfold declared? at h
  split at h
  · cases h
    exact .nil
  · cases h
    exact .nil
  · exact nodup_entries? h

end Tree

namespace Check

variable {check : Check α} {found : Option Tree} {values : List α}

theorem nullish_of_ne_null {tree : Tree} (h : tree ≠ .null) :
    nullish check (some tree) = (check (some tree)).map some := by
  cases tree <;> first | rfl | exact absurd rfl h

/-- Where an item stands does not matter to what it is read as. -/
theorem map_within_eq_iff (items : List Tree) (start : Nat) (values : List α) :
    (items.zipIdx start).map (fun item => (check (some item.1)).within (.index item.2)) =
      values.map .valid ↔ items.map (fun item => check (some item)) = values.map .valid := by
  induction items generalizing start values with
  | nil => simp
  | cons item items ih =>
    cases values with
    | nil => simp
    | cons value values =>
      have hitem : (check (some item)).within (.index start) = .valid value ↔
          check (some item) = .valid value := by
        cases check (some item) <;> simp [Checked.within]
      simp only [List.zipIdx_cons, List.map_cons, List.cons.injEq, hitem, ih]

/-- **A list is read item by item.** -/
theorem list_eq_valid_iff : list check found = .valid values ↔
    ∃ items, found.bind Tree.items? = some items ∧
      items.map (fun item => check (some item)) = values.map .valid := by
  rw [list]
  cases hitems : found.bind Tree.items? with
  | none => simp [mismatch]
  | some items =>
    simp only [Check.items, Checked.all_eq_valid_iff, Option.some.injEq, exists_eq_left']
    exact map_within_eq_iff items 0 values

end Check

namespace Manifest

variable {check : Check α} {found : Option Tree} {values : List α}

theorem listOrNothing_eq_valid_iff : listOrNothing check found = .valid values ↔
    ∃ items, Tree.listed? found = some items ∧
      items.map (fun item => check (some item)) = values.map .valid := by
  have hnothing : (.valid [] : Checked (List α)) = .valid values ↔ values = [] := by
    rw [Checked.valid.injEq, eq_comm]
  have hempty : (∃ items, some [] = some items ∧
      items.map (fun item => check (some item)) = values.map .valid) ↔ values = [] := by
    simp
  cases found with
  | none => exact hnothing.trans hempty.symm
  | some tree =>
    by_cases htree : tree = .null
    · subst htree
      exact hnothing.trans hempty.symm
    · have hread : listOrNothing check (some tree) = list check (some tree) := by
        rw [listOrNothing, mapped, nullish_of_ne_null htree]
        cases list check (some tree) <;> rfl
      rw [hread, list_eq_valid_iff, Tree.listed?_of_ne_null htree, Option.bind_some]

end Manifest

/-! ## Services are read field by field -/

open Manifest

/-- What is read of which field of a service. -/
def ServiceShape.readings (shape : ServiceShape) : List (String × Demand) :=
  [("image", fun found => nullish text found = .valid shape.image),
    ("privileged", fun found =>
      nullish (either [flagScalar, textScalar]) found = .valid shape.privileged),
    ("cap_add", fun found => listOrNothing text found = .valid shape.capabilities),
    ("command", fun found => nullish Manifest.command found = .valid shape.command),
    ("network_mode", fun found => nullish text found = .valid shape.networkMode),
    ("volumes", fun found => listOrNothing volume found = .valid shape.volumes),
    ("environment", fun found => nullish Manifest.environment found = .valid shape.environment),
    ("user", fun found => nullish (either [textScalar, numberScalar]) found = .valid shape.user),
    ("security_opt", fun found => listOrNothing text found = .valid shape.securityOptions),
    ("ports", fun found => listOrNothing port found = .valid shape.ports),
    ("restart", fun found =>
      nullish (either [textScalar, flagScalar]) found = .valid shape.restart),
    ("networks", fun found => namesOrNothing found = .valid shape.networks),
    ("depends_on", fun found => namesOrNothing found = .valid shape.dependsOn),
    ("healthcheck", fun found => nullish Manifest.healthcheck found = .valid shape.healthcheck)]

/-- A shape that is read of fields. -/
def ServiceShape.ReadFrom (shape : ServiceShape) (fields : List (String × Tree)) : Prop :=
  ∀ reading ∈ shape.readings, reading.2 (fields.lookup reading.1)

/-- A field of a service: its key, what it is read with, and its place in a shape. It is one of the
fields that are read, and another value in its place changes no other of them. -/
structure ServiceField (β : Type) where
  key : String
  check : Check β
  get : ServiceShape → β
  set : ServiceShape → β → ServiceShape
  mem_readings (shape : ServiceShape) :
    (key, fun found => check found = .valid (get shape)) ∈ shape.readings := by
      simp [ServiceShape.readings]
  others (shape : ServiceShape) (value : β) : ∀ reading ∈ (set shape value).readings,
    reading.1 ≠ key → reading ∈ shape.readings := by
      simp [ServiceShape.readings]
  own (shape : ServiceShape) (value : β) : ∀ reading ∈ (set shape value).readings,
    reading.1 = key → reading.2 = fun found => check found = .valid value := by
      simp [ServiceShape.readings]

namespace ServiceField

def image : ServiceField (Option String) where
  key := "image"
  check := nullish text
  get shape := shape.image
  set shape image := { shape with image }

def capabilities : ServiceField (List String) where
  key := "cap_add"
  check := listOrNothing text
  get shape := shape.capabilities
  set shape capabilities := { shape with capabilities }

def volumes : ServiceField (List VolumeShape) where
  key := "volumes"
  check := listOrNothing volume
  get shape := shape.volumes
  set shape volumes := { shape with volumes }

def environment : ServiceField (Option EnvironmentShape) where
  key := "environment"
  check := nullish Manifest.environment
  get shape := shape.environment
  set shape environment := { shape with environment }

def ports : ServiceField (List PortShape) where
  key := "ports"
  check := listOrNothing port
  get shape := shape.ports
  set shape ports := { shape with ports }

end ServiceField

namespace ServiceShape.ReadFrom

variable {β : Type} {shape : ServiceShape} {fields fields' : List (String × Tree)} {value : β}

/-- What stands in a field is what the field is read as. -/
theorem get (field : ServiceField β) (h : shape.ReadFrom fields) :
    field.check (fields.lookup field.key) = .valid (field.get shape) :=
  h _ (field.mem_readings shape)

/-- **A field that changes is read anew, and every other field as before.** -/
theorem set (field : ServiceField β) (h : shape.ReadFrom fields)
    (hothers : ∀ key ≠ field.key, fields'.lookup key = fields.lookup key)
    (hread : field.check (fields'.lookup field.key) = .valid value) :
    (field.set shape value).ReadFrom fields' := by
  intro reading hreading
  by_cases hname : reading.1 = field.key
  · rw [field.own shape value reading hreading hname, hname]
    exact hread
  · rw [hothers _ hname]
    exact h reading (field.others shape value reading hreading hname)

end ServiceShape.ReadFrom

namespace Manifest

variable {shape : ServiceShape} {name : String}

/-- **A service is read field by field.** -/
theorem service_eq_valid_iff {found : Option Tree} : Manifest.service found = .valid shape ↔
    ∃ fields, found.bind Tree.entries? = some fields ∧ shape.ReadFrom fields := by
  have hmeets : Manifest.service found = .valid shape ↔
      Accepts Manifest.service (fun read => read = shape) found := Checked.meets_eq_iff.symm
  rw [hmeets, Manifest.service, accepts_object_iff]
  refine exists_congr fun fields => and_congr_right fun _ => ?_
  simp only [Checked.meets_seq, Checked.meets_fmap, meets_field, ServiceShape.ReadFrom,
    ServiceShape.readings, List.forall_mem_cons, List.not_mem_nil, false_imp_iff, implies_true,
    and_true]
  constructor
  · rintro ⟨image, himage, privileged, hprivileged, capabilities, hcapabilities, command, hcommand,
      networkMode, hnetworkMode, volumes, hvolumes, environment, henvironment, user, huser,
      securityOptions, hsecurityOptions, ports, hports, restart, hrestart, networks, hnetworks,
      dependsOn, hdependsOn, healthcheck, hhealthcheck, rfl⟩
    exact ⟨himage, hprivileged, hcapabilities, hcommand, hnetworkMode, hvolumes, henvironment,
      huser, hsecurityOptions, hports, hrestart, hnetworks, hdependsOn, hhealthcheck⟩
  · rintro ⟨himage, hprivileged, hcapabilities, hcommand, hnetworkMode, hvolumes, henvironment,
      huser, hsecurityOptions, hports, hrestart, hnetworks, hdependsOn, hhealthcheck⟩
    exact ⟨_, himage, _, hprivileged, _, hcapabilities, _, hcommand, _, hnetworkMode, _, hvolumes,
      _, henvironment, _, huser, _, hsecurityOptions, _, hports, _, hrestart, _, hnetworks, _,
      hdependsOn, _, hhealthcheck, rfl⟩

/-- So is a service that may be null: then it has no fields. -/
theorem accepts_orNull_service_iff {P : ServiceShape → Prop} {tree : Tree} :
    Accepts (orNull Manifest.service) (fun found => P (found.getD {})) (some tree) ↔
      ∃ fields, Tree.declared? (some tree) = some fields ∧
        ∃ shape : ServiceShape, shape.ReadFrom fields ∧ P shape := by
  -- Null is read like an empty mapping.
  obtain ⟨read, hread, hfields⟩ : ∃ read : Tree,
      (Accepts (orNull Manifest.service) (fun found => P (found.getD {})) (some tree) ↔
        Accepts Manifest.service P (some read)) ∧
      Tree.declared? (some tree) = (some read).bind Tree.entries? := by
    by_cases htree : tree = .null
    · subst htree
      have hnone : orNull Manifest.service (some .null) = .valid none := rfl
      have hempty : Manifest.service (some (.mapping [])) = .valid {} := rfl
      refine ⟨.mapping [], ?_, rfl⟩
      rw [Accepts, Accepts, hnone, hempty, Checked.meets_valid, Checked.meets_valid,
        Option.getD_none]
    · refine ⟨tree, ?_, Tree.declared?_of_ne_null htree⟩
      rw [orNull, accepts_either_cons, accepts_either_singleton]
      simp [accepts_mapped, accepts_nothing_iff, htree]
  rw [hread, hfields]
  constructor
  · rintro ⟨shape, hshape, h⟩
    obtain ⟨fields, hentries, hread⟩ := service_eq_valid_iff.mp hshape
    exact ⟨fields, hentries, shape, hread, h⟩
  · rintro ⟨fields, hentries, shape, hread, h⟩
    exact ⟨shape, service_eq_valid_iff.mpr ⟨fields, hentries, hread⟩, h⟩

theorem takes_iff {tree : Tree} : Takes name tree ↔
    ∃ fields, Tree.declared? (some tree) = some fields ∧ ∃ shape : ServiceShape,
      shape.ReadFrom fields ∧ (name ≠ reservedKey → ∃ read, reduceService name shape = .ok read) :=
  accepts_orNull_service_iff
    (P := fun shape => name ≠ reservedKey → ∃ read, reduceService name shape = .ok read)

theorem readsAs_iff {tree : Tree} {read : Service} : ReadsAs name tree read ↔
    ∃ fields, Tree.declared? (some tree) = some fields ∧ ∃ shape : ServiceShape,
      shape.ReadFrom fields ∧ reduceService name shape = .ok read :=
  accepts_orNull_service_iff (P := fun shape => reduceService name shape = .ok read)

/-! ## Variables -/

variable {found : Option Tree} {entries : List (String × Tree)}

/-- The variables that are kept of the entries of an environment. -/
structure Keeps (entries : List (String × Tree)) (kept : List (String × Option Scalar)) : Prop where
  nodup : (kept.map Prod.fst).Nodup
  mem_iff : ∀ key value, (key, value) ∈ kept ↔
    key ≠ reservedKey ∧ ∃ tree, (key, tree) ∈ entries ∧ orNull scalar (some tree) = .valid value

/-- The environment of a shape, which may have none. -/
def environmentOf (environment : Option EnvironmentShape) : Table EnvValue :=
  (environment.map Environment.ofShape).getD .empty

/-- An environment that is a mapping is read as one. -/
theorem environment_eq_valid_iff (h : found.bind Tree.entries? = some entries)
    {environment : EnvironmentShape} : Manifest.environment found = .valid environment ↔
      ∃ kept, record (orNull scalar) found = .valid kept ∧ .mapping kept = environment := by
  have hmapping : Demand.entries (fun _ _ => True) found := ⟨entries, h, fun _ _ => trivial⟩
  have hlist : ¬ (Accepts scalar fun _ => True).items found := fun hitems =>
    hitems.not_entries hmapping
  have hmeets : Manifest.environment found = .valid environment ↔
      Accepts Manifest.environment (fun read => read = environment) found :=
    Checked.meets_eq_iff.symm
  rw [hmeets, Manifest.environment, accepts_either_pair, accepts_mapped, accepts_mapped]
  · refine or_iff_right ?_
    rintro ⟨items, hitems, -⟩
    exact hlist (accepts_list_true_iff.mp ⟨items, hitems, trivial⟩)
  · intro hitems
    rw [accepts_mapped, accepts_list_true_iff] at hitems
    exact absurd hitems hlist

theorem map_fst_ofEntry (kept : List (String × Option Scalar)) :
    (kept.map Environment.ofEntry).map Prod.fst = kept.map Prod.fst := by
  rw [List.map_map]
  refine List.map_congr_left fun (key, value) _ => ?_
  cases value <;> rfl

/-- **The variables of an environment** are what its entries are read as. -/
theorem keeps_of_environment {environment : Option EnvironmentShape}
    (hentries : Tree.declared? found = some entries)
    (h : nullish Manifest.environment found = .valid environment) :
    (∀ entry ∈ entries, Accepts (orNull scalar) (fun _ => True) (some entry.2)) ∧
      ∃ kept, Keeps entries kept ∧
        (environmentOf environment).entries = kept.map Environment.ofEntry := by
  rcases eq_none_or_of_nullish h with ⟨rfl, rfl | rfl⟩ | ⟨written, rfl, hwritten⟩
  · cases hentries
    exact ⟨by simp, [], ⟨.nil, by simp⟩, rfl⟩
  · cases hentries
    exact ⟨by simp, [], ⟨.nil, by simp⟩, rfl⟩
  · have hmapping : found.bind Tree.entries? = some entries :=
      Tree.entries?_of_declared? hentries (by rintro rfl; cases hwritten)
        (by rintro rfl; cases hwritten)
    obtain ⟨kept, hkept, rfl⟩ := (environment_eq_valid_iff hmapping).mp hwritten
    have hkeys : (kept.map Prod.fst).Nodup := by
      rw [keys_of_record hkept, hmapping, Option.getD_some]
      exact (nodup_of_bind_entries? hmapping).filter _
    obtain ⟨entries', hentries', haccepts⟩ := accepts_record_true_iff.mp ⟨kept, hkept, trivial⟩
    obtain rfl : entries = entries' := Option.some.inj (hmapping.symm.trans hentries')
    refine ⟨haccepts, kept, ⟨hkeys, fun key value => mem_record_iff hkept hmapping⟩, ?_⟩
    have hnodup : ((kept.map Environment.ofEntry).map Prod.fst).Nodup := by
      rwa [map_fst_ofEntry]
    exact Table.entries_ofList hnodup

/-- **Entries that are accepted make an environment.** -/
theorem exists_environment (hentries : found.bind Tree.entries? = some entries)
    (haccepts : ∀ entry ∈ entries, Accepts (orNull scalar) (fun _ => True) (some entry.2)) :
    ∃ environment, nullish Manifest.environment found = .valid environment := by
  obtain ⟨kept, hkept, -⟩ := accepts_record_true_iff.mpr ⟨entries, hentries, haccepts⟩
  have hread := (environment_eq_valid_iff hentries).mpr ⟨kept, hkept, rfl⟩
  cases found with
  | none => cases hentries
  | some tree =>
    have htree : tree ≠ .null := by rintro rfl; cases hentries
    rw [nullish_of_ne_null htree, hread]
    exact ⟨_, rfl⟩

end Manifest

end ComposeLint
