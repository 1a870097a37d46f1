import ComposeLint.Proofs.Place

/-!
# Fields that are left out

An optional field may be left out or null. `Tree.DifferAt` compares two manifests that are the same
but for what stands in one place. A difference that is not read there is not read in the whole
manifest (`Manifest.Place.fields_manifest`), and null is read like nothing in every optional field
but one: the type of a volume in the long form may be left out and may not be null.
-/

namespace ComposeLint

open Check

/-! ## Two trees that differ in one place -/

namespace Tree

/-- Two trees that are the same but for what stands at the end of a path. -/
inductive DifferAt (R : Tree → Tree → Prop) : List Step → Tree → Tree → Prop
  /-- The trees themselves differ. -/
  | here {tree tree' : Tree} (h : R tree tree') : DifferAt R [] tree tree'
  /-- What stands under one key differs. -/
  | key {name : String} {path : List Step} {tree tree' child child' : Tree}
      {before after : List (String × Tree)}
      (hentries : tree.entries? = some (before ++ (name, child) :: after))
      (hentries' : tree'.entries? = some (before ++ (name, child') :: after))
      (h : DifferAt R path child child') : DifferAt R (.key name :: path) tree tree'
  /-- What stands at one position differs. -/
  | index {path : List Step} {tree tree' child child' : Tree} {before after : List Tree}
      (hitems : tree.items? = some (before ++ child :: after))
      (hitems' : tree'.items? = some (before ++ child' :: after))
      (h : DifferAt R path child child') : DifferAt R (.index before.length :: path) tree tree'

/-- The second mapping is the first one with a field that is null besides. -/
def WritesNull (field : String) (tree tree' : Tree) : Prop :=
  ∃ before after, tree.entries? = some (before ++ after) ∧
    tree'.entries? = some (before ++ (field, .null) :: after)

end Tree

/-- Only what stands under one key is found to differ. -/
theorem lookup_append_cons_of_ne {α : Type} {name key : String} (value : α)
    (before after : List (String × α)) (h : key ≠ name) :
    (before ++ (name, value) :: after).lookup key = (before ++ after).lookup key := by
  rw [List.lookup_append, List.lookup_append, lookup_cons_eq_ite, if_neg h]

theorem lookup_append_cons_self {α : Type} {name : String} {value : α}
    {before after : List (String × α)}
    (h : ((before ++ (name, value) :: after).map Prod.fst).Nodup) :
    (before ++ (name, value) :: after).lookup name = some value :=
  (lookup_eq_some_iff_mem h).mpr (by simp)

/-- What stands under one key does not stand beside it. -/
theorem lookup_append_eq_none {α : Type} {name : String} {value : α}
    {before after : List (String × α)}
    (h : ((before ++ (name, value) :: after).map Prod.fst).Nodup) :
    (before ++ after).lookup name = none := by
  rw [List.map_append, List.map_cons, List.nodup_middle, List.nodup_cons, ← List.map_append] at h
  refine List.lookup_eq_none_iff.mpr fun entry hentry => bne_iff_ne.mpr fun hname => h.1 ?_
  have hmem : entry.1 ∈ (before ++ after).map Prod.fst := List.mem_map_of_mem hentry
  exact hname ▸ hmem

namespace Tree.DifferAt

variable {R : Tree → Tree → Prop} {path : List Step} {name : String} {tree tree' : Tree}

theorem imp {S : Tree → Tree → Prop} (h : DifferAt R path tree tree')
    (himp : ∀ child child', R child child' → S child child') : DifferAt S path tree tree' := by
  induction h with
  | here h => exact .here (himp _ _ h)
  | key hentries hentries' _ ih => exact .key hentries hentries' ih
  | index hitems hitems' _ ih => exact .index hitems hitems' ih

/-- The path leads to what differs. -/
theorem exists_at? (h : DifferAt R path tree tree') :
    ∃ child child', tree.at? path = some child ∧ tree'.at? path = some child' ∧
      R child child' := by
  induction h with
  | here h => exact ⟨_, _, rfl, rfl, h⟩
  | key hentries hentries' _ ih =>
    obtain ⟨child, child', hat, hat', h⟩ := ih
    refine ⟨child, child', ?_, ?_, h⟩
    · rw [at?, child?, hentries, Option.bind_some,
        lookup_append_cons_self (nodup_entries? hentries)]
      exact hat
    · rw [at?, child?, hentries', Option.bind_some,
        lookup_append_cons_self (nodup_entries? hentries')]
      exact hat'
  | index hitems hitems' _ ih =>
    obtain ⟨child, child', hat, hat', h⟩ := ih
    refine ⟨child, child', ?_, ?_, h⟩
    · rw [at?, child?, hitems, Option.bind_some]
      simpa using hat
    · rw [at?, child?, hitems', Option.bind_some]
      simpa using hat'

/-- **A difference under a key is a difference in one field.** -/
theorem fields {readings : List (String × Likeness)} (h : DifferAt R (.key name :: path) tree tree')
    (hrefl : Manifest.Reflexive readings)
    (hread : ∀ child child', DifferAt R path child child' →
      ∀ reading ∈ readings, reading.1 = name → reading.2 (some child) (some child')) :
    Likeness.fields readings (some tree) (some tree') := by
  cases h with
  | key hentries hentries' h =>
    refine ⟨_, _, hentries, hentries', fun reading hreading => ?_⟩
    by_cases hname : reading.1 = name
    · rw [hname, lookup_append_cons_self (nodup_entries? hentries),
        lookup_append_cons_self (nodup_entries? hentries')]
      exact hread _ _ h reading hreading hname
    · rw [lookup_append_cons_of_ne _ _ _ hname, lookup_append_cons_of_ne _ _ _ hname]
      exact hrefl reading hreading _

/-- It is a difference in one entry. -/
theorem entries (alike : String → Likeness) (h : DifferAt R (.key name :: path) tree tree')
    (hread : ∀ child child', DifferAt R path child child' →
      alike name (some child) (some child')) :
    Likeness.entries (fun key => (alike key).orSame) (some tree) (some tree') := by
  have hsame : ∀ entries : List (String × Tree), List.Forall₂ (fun entry entry' =>
      entry.1 = entry'.1 ∧ (alike entry.1).orSame (some entry.2) (some entry'.2))
        entries entries :=
    fun entries => List.forall₂_same.mpr fun entry _ => ⟨rfl, .inl rfl⟩
  cases h with
  | @key _ _ _ _ child child' before after hentries hentries' h =>
    refine ⟨_, _, hentries, hentries', ?_⟩
    exact List.rel_append (hsame before) (.cons ⟨rfl, .inr (hread child child' h)⟩ (hsame after))

/-- A difference at a position is a difference in one item. -/
theorem items (alike : Likeness) {i : Nat} (h : DifferAt R (.index i :: path) tree tree')
    (hread : ∀ child child', DifferAt R path child child' → alike (some child) (some child')) :
    alike.orSame.items (some tree) (some tree') := by
  have hsame : ∀ items : List Tree, List.Forall₂ (fun item item' =>
      alike.orSame (some item) (some item')) items items :=
    fun items => List.forall₂_same.mpr fun item _ => .inl rfl
  cases h with
  | @index _ _ _ child child' before after hitems hitems' h =>
    refine ⟨_, _, hitems, hitems', ?_⟩
    exact List.rel_append (hsame before) (.cons (.inr (hread child child' h)) (hsame after))

end Tree.DifferAt

/-! ## What is read of a place -/

namespace Manifest.Place

/-- The fields that may be left out in a place. -/
def optionalFields : Place → List String
  | root => ["services", "networks", "volumes"]
  | service _ =>
    ["image", "privileged", "cap_add", "command", "network_mode", "volumes", "environment", "user",
      "security_opt", "ports", "restart", "networks", "depends_on", "healthcheck"]
  | healthcheck _ => ["test", "disable"]
  | volume _ _ => ["type", "source", "read_only"]
  | port _ _ => ["published", "host_ip", "protocol", "mode"]
  | network _ => ["external", "driver"]

/-- Whether a field may be left out and may not be null. -/
def refusesNull : Place → String → Bool
  | volume _ _, field => field == "type"
  | _, _ => false

/-- What is read of a place. -/
def readings : Place → List (String × Likeness)
  | root => manifestReadings
  | service name => serviceReadings name (name ≠ reservedKey)
  | healthcheck _ => healthcheckReadings
  | volume _ _ => volumeReadings
  | port _ _ => portReadings
  | network _ => networkReadings

theorem reflexive_readings (place : Place) : Reflexive place.readings := by
  cases place with
  | root => exact reflexive_manifestReadings
  | service name => exact reflexive_serviceReadings name _
  | healthcheck name => exact reflexive_healthcheckReadings
  | volume name i => exact reflexive_volumeReadings
  | port name i => exact reflexive_portReadings
  | network name => exact reflexive_networkReadings

/-- Two trees that are read alike in a place. -/
def alike : Place → Likeness
  | port name _ => portAlike (name ≠ reservedKey)
  | place => Likeness.fields place.readings

theorem alike_of_fields {place : Place} {found found' : Option Tree}
    (h : Likeness.fields place.readings found found')
    (hshown : portShown found ↔ portShown found') : place.alike found found' := by
  cases place with
  | port name i => exact ⟨h, fun _ => hshown⟩
  | _ => exact h

section Carried

variable {R : Tree → Tree → Prop} {path : List Step} {name : String} {tree tree' : Tree}

/-- A difference in a service is carried up to the manifest. -/
theorem fields_manifest_of_service
    (h : Tree.DifferAt R (.key "services" :: .key name :: path) tree tree')
    (hread : ∀ child child', Tree.DifferAt R path child child' →
      Likeness.fields (serviceReadings name (name ≠ reservedKey)) (some child) (some child')) :
    Likeness.fields manifestReadings (some tree) (some tree') := by
  refine h.fields reflexive_manifestReadings fun services services' h => ?_
  have hservices := h.entries
    (fun name => Likeness.fields (serviceReadings name (name ≠ reservedKey))) hread
  simpa [manifestReadings] using agrees_services hservices

end Carried

/-- **What is read alike in a place is read alike in the whole manifest.** -/
theorem fields_manifest (place : Place) {tree tree' : Tree}
    (h : Tree.DifferAt (fun child child' => place.alike (some child) (some child')) place.path
      tree tree') : Likeness.fields manifestReadings (some tree) (some tree') := by
  cases place with
  | root =>
    cases h with
    | here h => exact h
  | service name =>
    refine fields_manifest_of_service h fun child child' h => ?_
    cases h with
    | here h => exact h
  | healthcheck name =>
    refine fields_manifest_of_service h fun child child' h => ?_
    refine h.fields (reflexive_serviceReadings _ _) fun check check' h => ?_
    cases h with
    | here h => simpa [serviceReadings] using agrees_nullish_healthcheck (.inr h)
  | volume name i =>
    refine fields_manifest_of_service h fun child child' h => ?_
    refine h.fields (reflexive_serviceReadings _ _) fun volumes volumes' h => ?_
    have hitems := h.items (Likeness.fields volumeReadings) fun volume volume' h => by
      cases h with
      | here h => exact h
    simpa [serviceReadings] using agrees_volumes hitems
  | port name i =>
    refine fields_manifest_of_service h fun child child' h => ?_
    refine h.fields (reflexive_serviceReadings _ _) fun ports ports' h => ?_
    have hitems := h.items (portAlike (name ≠ reservedKey)) fun port port' h => by
      cases h with
      | here h => exact h
    simpa [serviceReadings] using agrees_ports hitems
  | network name =>
    refine h.fields reflexive_manifestReadings fun networks networks' h => ?_
    have hnetworks := h.entries (fun _ => Likeness.fields networkReadings)
      fun network network' h => by
        cases h with
        | here h => exact h
    simpa [manifestReadings] using agrees_networks hnetworks

/-! ## Null in a place -/

/-- **Null is read like nothing** in every optional field that takes it. -/
theorem reads_null {place : Place} {field : String} (hfield : field ∈ place.optionalFields)
    (hnull : place.refusesNull field = false) :
    ∀ reading ∈ place.readings, reading.1 = field → reading.2 none (some .null) := by
  have hports : ∀ (name : String) (kept : Prop),
      Agrees (listOrNothing Manifest.port) (List.Forall₂ (SamePort name kept)) none (some .null) :=
    fun name kept => agrees_null rfl (forall₂_samePort_refl name kept)
  have hlists : ∀ {α : Type} (check : Check α),
      Agrees (listOrNothing check) Eq none (some .null) :=
    fun check => agrees_null rfl fun _ => rfl
  have hnames : Agrees namesOrNothing Eq none (some .null) := agrees_null rfl fun _ => rfl
  have hvalues : ∀ {α : Type} (check : Check α), Agrees (nullish check) Eq none (some .null) :=
    fun check => agrees_null rfl fun _ => rfl
  have hservices : Agrees (nullish (record (orNull Manifest.service)))
      (Option.Rel (List.Forall₂ SameEntry)) none (some .null) :=
    agrees_null rfl rel_forall₂_sameEntry_refl
  cases place with
  | root => simp [readings, manifestReadings, hservices, hvalues]
  | service name => simp [readings, serviceReadings, hports, hlists, hnames, hvalues]
  | healthcheck name => simp [readings, healthcheckReadings, hvalues]
  | volume name i =>
    have htype : field ≠ "type" := by simpa [refusesNull] using hnull
    have htarget : field ≠ "target" := by rintro rfl; simp [optionalFields] at hfield
    simp [readings, volumeReadings, hvalues, htype.symm, htarget.symm]
  | port name i =>
    have htarget : field ≠ "target" := by rintro rfl; simp [optionalFields] at hfield
    simp [readings, portReadings, hvalues, htarget.symm]
  | network name => simp [readings, networkReadings, hvalues]

/-- A null can be shown. -/
theorem portShown_iff_of_writesNull {field : String} {tree tree' : Tree}
    (h : Tree.WritesNull field tree tree') : portShown (some tree) ↔ portShown (some tree') := by
  obtain ⟨before, after, hentries, hentries'⟩ := h
  have hnull : ∀ way step, Tree.circleFrom? way step none .null = none := fun _ _ => rfl
  simp only [portShown, Option.bind_some, hentries, hentries', Option.some.injEq, forall_eq',
    circle?_shownEntries_eq_none_iff (Tree.nodup_entries? hentries),
    circle?_shownEntries_eq_none_iff (Tree.nodup_entries? hentries'), List.forall_mem_append,
    List.forall_mem_cons, hnull, implies_true, true_and]

/-- **A place where null is written for nothing is read alike.** -/
theorem alike_of_writesNull {place : Place} {field : String} {tree tree' : Tree}
    (hfield : field ∈ place.optionalFields) (hnull : place.refusesNull field = false)
    (h : Tree.WritesNull field tree tree') : place.alike (some tree) (some tree') := by
  refine alike_of_fields ?_ (portShown_iff_of_writesNull h)
  obtain ⟨before, after, hentries, hentries'⟩ := h
  have hnodup := Tree.nodup_entries? hentries'
  refine ⟨_, _, hentries, hentries', fun reading hreading => ?_⟩
  by_cases hname : reading.1 = field
  · rw [hname, lookup_append_eq_none hnodup, lookup_append_cons_self hnodup]
    exact reads_null hfield hnull reading hreading hname
  · rw [lookup_append_cons_of_ne _ _ _ hname]
    exact reflexive_readings place reading hreading _

end Manifest.Place

/-! ## Null that is refused -/

namespace Manifest

/-- The type of a volume is a text, or it is left out. -/
theorem not_accepts_volume_of_writesNull {volume volume' : Tree}
    (h : Tree.WritesNull "type" volume volume') :
    ¬ Accepts Manifest.volume (fun _ => True) (some volume') := by
  obtain ⟨before, after, -, hentries⟩ := h
  intro haccepts
  have hfields : Demand.fields volumeFields (some volume') := by
    have hvolume : Accepts Manifest.volume
        (fun shape => False → ∃ m, mount "" shape = .ok m) (some volume') := by
      simpa using haccepts
    refine (accepts_volume_iff.mp hvolume).resolve_left fun htext => ?_
    obtain ⟨s, hs, -⟩ := accepts_text_iff.mp htext
    cases hs
    cases hentries
  obtain ⟨entries, hentries', hfields⟩ := hfields
  obtain rfl : _ = entries := Option.some.inj (hentries.symm.trans hentries')
  have htype := hfields ("type", Accepts (optional text) fun _ => True) (by simp [volumeFields])
  rw [lookup_append_cons_self (Tree.nodup_entries? hentries)] at htype
  exact Checked.not_meets_mismatched htype

end Manifest

namespace Document

variable {place : Manifest.Place} {field path : String} {tree tree' : Tree}

/-- **A volume with a type that is null refuses the manifest.** -/
theorem ofTree_ne_ok_of_refusesNull (hnull : place.refusesNull field = true)
    (h : Tree.DifferAt (Tree.WritesNull field) place.path tree tree') (document : Document) :
    ofTree path (some tree') ≠ .ok document := by
  intro hread
  obtain ⟨volume, volume', -, hvolume, hwrites⟩ := h.exists_at?
  cases place with
  | volume name i =>
    obtain rfl : field = "type" := by simpa [Manifest.Place.refusesNull] using hnull
    exact Manifest.not_accepts_volume_of_writesNull hwrites (accepts_volume_of_ofTree hread hvolume)
  | _ => cases hnull

/-- **To write null is to leave out**, unless the field refuses null: then the manifest is
refused. -/
theorem toOption_ofTree_writesNull_iff (hfield : field ∈ place.optionalFields)
    (h : Tree.DifferAt (Tree.WritesNull field) place.path tree tree') :
    (ofTree path (some tree')).toOption = (ofTree path (some tree)).toOption ↔
      place.refusesNull field = false ∨ ∀ document, ofTree path (some tree) ≠ .ok document := by
  cases hnull : place.refusesNull field with
  | false =>
    have halike := h.imp fun child child' => Manifest.Place.alike_of_writesNull hfield hnull
    simp [toOption_ofTree_congr (place.fields_manifest halike)]
  | true =>
    have hrefused : (ofTree path (some tree')).toOption = none :=
      toOption_eq_none_iff.mpr (ofTree_ne_ok_of_refusesNull hnull h)
    rw [hrefused, eq_comm, toOption_eq_none_iff]
    simp

/-- A manifest with a service that has a volume. -/
def mounting (volume : List (String × Tree)) : Tree :=
  .mapping [("services", .mapping [("web", .mapping [("volumes", .list [.mapping volume])])])]

theorem differAt_mounting {R : Tree → Tree → Prop} {volume volume' : List (String × Tree)}
    (h : R (.mapping volume) (.mapping volume')) :
    Tree.DifferAt R (Manifest.Place.volume "web" 0).path (mounting volume) (mounting volume') := by
  have hentries : ∀ (key : String) (child : Tree),
      (Tree.mapping [(key, child)]).entries? = some ([] ++ (key, child) :: []) :=
    Tree.entries?_singleton
  have hitems : ∀ child : Tree, (Tree.list [child]).items? = some ([] ++ child :: []) :=
    fun _ => rfl
  refine .key (hentries _ _) (hentries _ _) ?_
  refine .key (hentries _ _) (hentries _ _) ?_
  refine .key (hentries _ _) (hentries _ _) ?_
  exact .index (hitems _) (hitems _) (.here h)

/-- A volume may have a source that is null. -/
theorem toOption_ofTree_writesNull_source :
    (ofTree "compose.yml"
        (some (mounting [("source", .null), ("target", .text "/data")]))).toOption =
      (ofTree "compose.yml" (some (mounting [("target", .text "/data")]))).toOption ∧
    ∃ document, ofTree "compose.yml" (some (mounting [("target", .text "/data")])) =
      .ok document := by
  have hwrites : Tree.WritesNull "source" (.mapping [("target", .text "/data")])
      (.mapping [("source", .null), ("target", .text "/data")]) :=
    ⟨[], [("target", .text "/data")], rfl, rfl⟩
  have hfield : "source" ∈ (Manifest.Place.volume "web" 0).optionalFields := by decide
  refine ⟨?_, _, rfl⟩
  exact (toOption_ofTree_writesNull_iff hfield (differAt_mounting hwrites)).mpr (.inl rfl)

/-- It may have no type that is null, though it may have none. -/
theorem not_toOption_ofTree_writesNull_type :
    ¬ ∀ (place : Manifest.Place) (field path : String) (tree tree' : Tree),
      field ∈ place.optionalFields → Tree.DifferAt (Tree.WritesNull field) place.path tree tree' →
        (ofTree path (some tree')).toOption = (ofTree path (some tree)).toOption := by
  intro h
  have hwrites : Tree.WritesNull "type" (.mapping [("target", .text "/data")])
      (.mapping [("type", .null), ("target", .text "/data")]) :=
    ⟨[], [("target", .text "/data")], rfl, rfl⟩
  have hsame := h (.volume "web" 0) "type" "compose.yml" _ _ (by decide)
    (differAt_mounting hwrites)
  cases hsame

end Document

end ComposeLint
