import ComposeLint.Proofs.Manifest
import ComposeLint.Proofs.Port
import ComposeLint.Proofs.Replacement

/-!
# References in place of values

`ManifestPlace` lists the places of a manifest where a scalar is read, and says of each whether a
text is taken there. Three fields take a truth value and no text: the switch of a health check, the
mode of a volume in the long form, and whether a network is outside. In these a reference to
a variable refuses the whole manifest. Everywhere else the value may be replaced by one, because
every reading of a text keeps a reference as it is written.
-/

namespace ComposeLint

open Check

/-- The name of a variable. -/
structure VariableName where
  first : Char
  others : List Char
  begins : Substitution.beginsName first = true
  continues : ∀ c ∈ others, Substitution.continuesName c = true

namespace VariableName

/-- The characters of the name. -/
def chars (name : VariableName) : List Char := name.first :: name.others

/-- The reference `${NAME}`. -/
def reference (name : VariableName) : String := String.ofList (Substitution.group name.chars)

theorem continuesName_of_beginsName {c : Char} (h : Substitution.beginsName c = true) :
    Substitution.continuesName c = true := by
  rw [Substitution.beginsName, Bool.or_eq_true] at h
  rw [Substitution.continuesName, Char.isAlphanum, Bool.or_assoc, Bool.or_eq_true, Bool.or_eq_true]
  exact h.imp id .inr

theorem enclosed (name : VariableName) : Substitution.Enclosed name.chars := by
  have hcontinues : ∀ c ∈ name.chars, Substitution.continuesName c = true := by
    intro c hc
    rcases List.mem_cons.mp hc with rfl | hmem
    · exact continuesName_of_beginsName name.begins
    · exact name.continues c hmem
  refine Substitution.enclosed_plain (fun hmem => ?_) fun hmem => ?_
  · exact absurd (hcontinues _ hmem) (by decide)
  · exact absurd (hcontinues _ hmem) (by decide)

/-! ## Readings keep a reference -/

/-- A reference is a mount: it is one part, the target. -/
theorem isSome_mount (name : VariableName) : (Mount.parse? name.reference).isSome := by
  have hsplit : Substitution.split ':' (Substitution.group name.chars) =
      [Substitution.group name.chars] :=
    Substitution.split_of_uncut (Substitution.uncut_group name.enclosed)
  rw [Mount.parse?, reference, String.toList_ofList, hsplit]
  rfl

/-- A reference is a port: it is the side of the container. -/
theorem isSome_binding (name : VariableName) : (PortBinding.parse? name.reference).isSome := by
  have hshort := PortBinding.parse?_short ⟨.sides none (.group name.chars name.enclosed), none⟩
  rw [WrittenPort.short, WrittenPort.suffix, List.append_nil] at hshort
  change (PortBinding.parse? (String.ofList (Substitution.group name.chars))).isSome
  rw [show Substitution.group name.chars =
    PortForm.chars (.sides none (.group name.chars name.enclosed)) from rfl, hshort]
  rfl

/-- A reference is a side of a port. -/
theorem portSideReads_reference (name : VariableName) : Manifest.portSideReads name.reference := by
  rw [Manifest.portSideReads, reference, String.toList_ofList, PortSide.parse?,
    Substitution.occursIn_group]
  rfl

/-- A reference is a restart policy. -/
theorem exists_restart (name : VariableName) (service : String) :
    ∃ setting, Manifest.restart service (some (.text name.reference)) = .ok setting := by
  have hparse : RestartSetting.parse? name.reference =
      some (.unresolved (String.ofList (Text.trim (Substitution.group name.chars)))) := by
    rw [RestartSetting.parse?, reference, String.toList_ofList, Substitution.occursIn_group]
    rfl
  simp [Manifest.restart, Scalar.toText, hparse, Manifest.orFault, Except.map]

end VariableName

/-! ## The places -/

/-- The places of a service where a scalar is read, and whether each of them takes a text. -/
inductive ServicePlace : List Step → Bool → Prop
  /-- A field that holds a single value. -/
  | field {name : String} :
      name ∈ ["image", "privileged", "command", "network_mode", "user", "restart"] →
        ServicePlace [.key name] true
  /-- An item of a field that holds a list. -/
  | item {name : String} (i : Nat) :
      name ∈ ["cap_add", "command", "volumes", "environment", "security_opt", "ports", "networks",
        "depends_on"] → ServicePlace [.key name, .index i] true
  /-- The value of an environment variable. -/
  | value (name : String) : ServicePlace [.key "environment", .key name] true
  | volume {name : String} (i : Nat) : name ∈ ["type", "source", "target"] →
      ServicePlace [.key "volumes", .index i, .key name] true
  | readOnly (i : Nat) : ServicePlace [.key "volumes", .index i, .key "read_only"] false
  | port {name : String} (i : Nat) : name ∈ Manifest.portKeys →
      ServicePlace [.key "ports", .index i, .key name] true
  | test : ServicePlace [.key "healthcheck", .key "test"] true
  | testWord (i : Nat) : ServicePlace [.key "healthcheck", .key "test", .index i] true
  | disable : ServicePlace [.key "healthcheck", .key "disable"] false

/-- The places of a manifest where a scalar is read, and whether each of them takes a text. -/
inductive ManifestPlace : List Step → Bool → Prop
  | service {place : List Step} {takesText : Bool} (name : String) :
      ServicePlace place takesText → ManifestPlace (.key "services" :: .key name :: place) takesText
  | driver (name : String) : ManifestPlace [.key "networks", .key name, .key "driver"] true
  | outside (name : String) : ManifestPlace [.key "networks", .key name, .key "external"] false

/-! ## Members of collections and scalars -/

namespace Manifest

open Demand

variable {service : String} {kept : Prop} {place : List Step} {takesText : Bool}

/-- A mapping is not a list. -/
theorem child?_index_of_entries {demand : String → Demand} {tree : Tree}
    (h : Demand.entries demand (some tree)) (i : Nat) : tree.child? (.index i) = none := by
  cases hitems : tree.items? with
  | none => simp [Tree.child?, hitems]
  | some items =>
    have hlist : Demand.items (fun _ => True) (some tree) := ⟨items, hitems, by simp⟩
    exact absurd h hlist.not_entries

/-- A list is not a mapping. -/
theorem child?_key_of_items {demand : Demand} {tree : Tree} (h : demand.items (some tree))
    (name : String) : tree.child? (.key name) = none := by
  cases hentries : tree.entries? with
  | none => simp [Tree.child?, hentries]
  | some entries =>
    have hmapping : Demand.entries (fun _ _ => True) (some tree) := ⟨entries, hentries, by simp⟩
    exact absurd hmapping h.not_entries

/-- A text has no members. -/
theorem child?_of_accepts_text {P : String → Prop} {tree : Tree} (h : Accepts text P (some tree))
    (step : Step) : tree.child? step = none := by
  obtain ⟨s, hs, -⟩ := accepts_text_iff.mp h
  obtain rfl := Option.some.inj hs
  cases step <;> rfl

/-! ## Values that may be missing, lists and alternatives -/

section

variable {α β : Type} {check : Check α} {verdict : Prop} {written : String} {i : Nat}

theorem survives_nullish (h : (Accepts check fun _ => True).SurvivesIff written place verdict) :
    (Accepts (nullish check) fun _ => True).SurvivesIff written place verdict :=
  .congr (fun _ => accepts_nullish_iff trivial) (.orNull h)

theorem survives_listOrNothing {P : α → Prop} {Q : List α → Prop}
    (hQ : ∀ values, Q values ↔ ∀ value ∈ values, P value)
    (h : (Accepts check P).SurvivesIff written place verdict) :
    (Accepts (listOrNothing check) Q).SurvivesIff written (.index i :: place) verdict := by
  obtain rfl : Q = fun values => ∀ value ∈ values, P value :=
    funext fun values => propext (hQ values)
  exact .congr (fun _ => accepts_listOrNothing_iff) (.orNull (.items h))

/-- The items of a list, where a list is one of two ways of writing and the text is the other. -/
theorem survives_textOrList {f : String → β} {g : List α → β}
    (h : Accepts check (fun _ => True) (some (.text written))) :
    (Accepts (either [mapped f text, mapped g (list check)]) fun _ => True).SurvivesIff written
      [.index i] True :=
  .congr (fun _ => accepts_text_or_list_iff)
    (.or_right (fun _ h => child?_of_accepts_text h _) (.items (.taken h)))

end

/-! ## Volumes, ports and health checks -/

theorem survives_volume (name : VariableName) {step : Step} {place : List Step} {verdict : Prop}
    (h : (Demand.fields volumeFields).SurvivesIff name.reference (step :: place) verdict) :
    (Accepts volume fun shape => kept → ∃ m, mount service shape = .ok m).SurvivesIff
      name.reference (step :: place) verdict :=
  .congr (fun _ => accepts_volume_iff) (.or_right (fun _ h => child?_of_accepts_text h step) h)

theorem survives_port (name : VariableName) {field : String} (hfield : field ∈ portKeys) :
    (Accepts port fun shape => kept → ∃ b, binding service shape = .ok b).SurvivesIff
      name.reference [.key field] True := by
  have hreads : ∀ {key : String} {demand : Demand}, (key, demand) ∈ portFields kept →
      demand (some (.text name.reference)) := by
    intro key demand hmem
    simp only [portFields, List.mem_cons, List.not_mem_nil, or_false, Prod.mk.injEq] at hmem
    rcases hmem with ⟨-, rfl⟩ | ⟨-, rfl⟩ | ⟨-, rfl⟩ | ⟨-, rfl⟩ | ⟨-, rfl⟩
    · exact ⟨_, rfl, fun _ => name.portSideReads_reference⟩
    · refine ⟨_, rfl, fun _ s hs => .inr ?_⟩
      rw [← Option.some.inj hs]
      exact name.portSideReads_reference
    all_goals exact ⟨_, rfl, trivial⟩
  have hkeys : (portFields kept).map Prod.fst = portKeys := rfl
  obtain ⟨⟨key, demand⟩, hmem, hkey⟩ := List.mem_map.mp (hkeys ▸ hfield)
  obtain rfl : key = field := hkey
  have hfields : (Demand.fields (portFields kept)).SurvivesIff name.reference [.key key] True :=
    .fields hmem (by rw [hkeys]; decide) (.taken (hreads hmem))
  -- A text closes no circle, and the other entries are as before.
  have hcircle : (portEntries kept).SurvivesIff name.reference [.key key] True := by
    refine .entries (.taken ?_)
    rintro - - tree ⟨rfl⟩
    rfl
  have hlong : (longPort kept).SurvivesIff name.reference [.key key] True :=
    .congr (fun _ => longPort_iff) (hfields.and hcircle)
  refine .congr (fun _ => accepts_port_iff) (.or_right ?_ hlong)
  rintro tree (hwhole | htext)
  · obtain ⟨n, hn⟩ := exists_number_of_accepts_whole hwhole
    obtain rfl := Option.some.inj hn
    rfl
  · exact child?_of_accepts_text htext _

theorem survives_healthcheck {written : String} {verdict : Prop} {place : List Step}
    (h : (Demand.fields healthcheckFields).SurvivesIff written place verdict) :
    (Accepts (nullish healthcheck) fun _ => True).SurvivesIff written place verdict :=
  survives_nullish (.congr (fun _ => accepts_healthcheck_iff) h)

/-! ## Fields that hold scalars -/

variable {written : String} {i : Nat}

theorem survives_texts :
    (Accepts (listOrNothing text) fun _ => True).SurvivesIff written [.index i] True :=
  survives_listOrNothing (P := fun _ => True) (by simp) (.taken ⟨_, rfl, trivial⟩)

theorem survives_names :
    (Accepts namesOrNothing fun _ => True).SurvivesIff written [.index i] True := by
  have hitems : (Demand.items (Accepts text fun _ => True)).SurvivesIff written [.index i] True :=
    .items (.taken ⟨_, rfl, trivial⟩)
  have hnames : (Accepts names fun _ => True).SurvivesIff written [.index i] True :=
    .congr (fun _ => accepts_names_iff) (.or_left (fun _ h => child?_index_of_entries h i) hitems)
  exact .congr (fun _ => accepts_mapped) (survives_nullish hnames)

theorem survives_words :
    (Accepts (nullish command) fun _ => True).SurvivesIff written [.index i] True :=
  survives_nullish (survives_textOrList ⟨_, rfl, trivial⟩)

theorem survives_environmentItem :
    (Accepts (nullish environment) fun _ => True).SurvivesIff written [.index i] True := by
  have hitems : (Demand.items (Accepts scalar fun _ => True)).SurvivesIff written [.index i] True :=
    .items (.taken ⟨_, rfl, trivial⟩)
  exact survives_nullish (.congr (fun _ => accepts_environment_iff)
    (.or_left (fun _ h => child?_index_of_entries h i) hitems))

theorem survives_variable {key : String} :
    (Accepts (nullish environment) fun _ => True).SurvivesIff written [.key key] True := by
  have hentries : (Demand.entries fun _ => Accepts (orNull scalar) fun _ => True).SurvivesIff
      written [.key key] True :=
    .entries (.taken ⟨_, rfl, trivial⟩)
  exact survives_nullish (.congr (fun _ => accepts_environment_iff)
    (.or_right (fun _ h => child?_key_of_items h key) hentries))

/-! ## A service -/

theorem serviceFields_nodup (service : String) (kept : Prop) :
    ((serviceFields service kept).map Prod.fst).Nodup := by
  simp [serviceFields]

/-- A field that holds a single value takes a reference. -/
theorem survives_scalarField (name : VariableName) {field : String}
    (hfield : field ∈ ["image", "privileged", "command", "network_mode", "user", "restart"]) :
    (Demand.fields (serviceFields service kept)).SurvivesIff name.reference [.key field] True := by
  have hreads : ∃ demand, (field, demand) ∈ serviceFields service kept ∧
      demand (some (.text name.reference)) := by
    simp only [List.mem_cons, List.not_mem_nil, or_false] at hfield
    rcases hfield with rfl | rfl | rfl | rfl | rfl | rfl
    all_goals refine ⟨_, by simp [serviceFields]; rfl, ?_⟩
    -- Only the restart policy is read any further than its shape.
    on_goal 6 =>
      obtain ⟨setting, hsetting⟩ := name.exists_restart service
      exact ⟨_, rfl, fun _ => ⟨setting, hsetting⟩⟩
    all_goals exact ⟨_, rfl, trivial⟩
  obtain ⟨demand, hmem, haccepts⟩ := hreads
  exact .fields hmem (serviceFields_nodup service kept) (.taken haccepts)

/-- An item of a list takes a reference. -/
theorem survives_item (name : VariableName) {field : String}
    (hfield : field ∈ ["cap_add", "command", "volumes", "environment", "security_opt", "ports",
      "networks", "depends_on"]) (i : Nat) :
    (Demand.fields (serviceFields service kept)).SurvivesIff name.reference
      [.key field, .index i] True := by
  have hvolume : Accepts volume (fun shape => kept → ∃ m, mount service shape = .ok m)
      (some (.text name.reference)) :=
    accepts_volume_iff.mpr (.inl ⟨_, rfl, fun _ => name.isSome_mount⟩)
  have hvolumes : (Accepts (listOrNothing volume) fun volumes =>
      ∀ shape ∈ volumes, kept → ∃ m, mount service shape = .ok m).SurvivesIff name.reference
        [.index i] True :=
    survives_listOrNothing (fun _ => Iff.rfl) (.taken hvolume)
  have hport : Accepts port (fun shape => kept → ∃ b, binding service shape = .ok b)
      (some (.text name.reference)) :=
    accepts_port_iff.mpr (.inl (.inr ⟨_, rfl, fun _ => name.isSome_binding⟩))
  have hports : (Accepts (listOrNothing port) fun ports =>
      ∀ shape ∈ ports, kept → ∃ b, binding service shape = .ok b).SurvivesIff name.reference
        [.index i] True :=
    survives_listOrNothing (fun _ => Iff.rfl) (.taken hport)
  have hnodup := serviceFields_nodup service kept
  simp only [List.mem_cons, List.not_mem_nil, or_false] at hfield
  rcases hfield with rfl | rfl | rfl | rfl | rfl | rfl | rfl | rfl
  · exact .fields (by simp [serviceFields]) hnodup survives_texts
  · exact .fields (by simp [serviceFields]) hnodup survives_words
  · exact .fields (by simp [serviceFields]) hnodup hvolumes
  · exact .fields (by simp [serviceFields]) hnodup survives_environmentItem
  · exact .fields (by simp [serviceFields]) hnodup survives_texts
  · exact .fields (by simp [serviceFields]) hnodup hports
  · exact .fields (by simp [serviceFields]) hnodup survives_names
  · exact .fields (by simp [serviceFields]) hnodup survives_names

/-- A flag is not a text. -/
theorem not_accepts_flag : ¬ Accepts (nullish flag) (fun _ => True) (some (.text written)) :=
  Checked.not_meets_mismatched

theorem survives_volumeField {field : String} (hfield : field ∈ ["type", "source", "target"]) :
    (Demand.fields volumeFields).SurvivesIff written [.key field] True := by
  have hreads : ∃ demand, (field, demand) ∈ volumeFields ∧ demand (some (.text written)) := by
    simp only [List.mem_cons, List.not_mem_nil, or_false] at hfield
    rcases hfield with rfl | rfl | rfl
    all_goals
      refine ⟨_, by simp [volumeFields]; rfl, ?_⟩
      exact ⟨_, rfl, trivial⟩
  obtain ⟨demand, hmem, haccepts⟩ := hreads
  exact .fields hmem (by decide) (.taken haccepts)

theorem survives_readOnly :
    (Demand.fields volumeFields).SurvivesIff written [.key "read_only"] False := by
  have hflag : (Accepts (nullish flag) fun _ => True).SurvivesIff written [] False :=
    .refused not_accepts_flag
  exact .fields (by simp [volumeFields]) (by decide) hflag

theorem survives_test :
    (Demand.fields healthcheckFields).SurvivesIff written [.key "test"] True := by
  have htest : (Accepts (nullish (either [mapped some text, mapped List.head? (list text)]))
      fun _ => True).SurvivesIff written [] True :=
    .taken ⟨_, rfl, trivial⟩
  exact .fields (by simp [healthcheckFields]) (by decide) htest

theorem survives_testWord :
    (Demand.fields healthcheckFields).SurvivesIff written [.key "test", .index i] True := by
  have htest : (Accepts (nullish (either [mapped some text, mapped List.head? (list text)]))
      fun _ => True).SurvivesIff written [.index i] True :=
    survives_nullish (survives_textOrList ⟨_, rfl, trivial⟩)
  exact .fields (by simp [healthcheckFields]) (by decide) htest

theorem survives_disable :
    (Demand.fields healthcheckFields).SurvivesIff written [.key "disable"] False := by
  have hflag : (Accepts (nullish flag) fun _ => True).SurvivesIff written [] False :=
    .refused not_accepts_flag
  exact .fields (by simp [healthcheckFields]) (by decide) hflag

/-- **A service survives a reference** exactly where a text is taken. -/
theorem survives_service (name : VariableName) (hplace : ServicePlace place takesText) :
    (Demand.fields (serviceFields service kept)).SurvivesIff name.reference place
      (takesText = true) := by
  have hnodup := serviceFields_nodup service kept
  have hvolumes : ∀ {i : Nat} {field : String} {verdict : Prop},
      (Demand.fields volumeFields).SurvivesIff name.reference [.key field] verdict →
        (Demand.fields (serviceFields service kept)).SurvivesIff name.reference
          [.key "volumes", .index i, .key field] verdict := by
    intro i field verdict h
    refine .fields (by simp [serviceFields]; rfl) hnodup ?_
    exact survives_listOrNothing (fun _ => Iff.rfl) (survives_volume name h)
  have hhealthcheck : ∀ {place : List Step} {verdict : Prop},
      (Demand.fields healthcheckFields).SurvivesIff name.reference place verdict →
        (Demand.fields (serviceFields service kept)).SurvivesIff name.reference
          (.key "healthcheck" :: place) verdict := by
    intro place verdict h
    exact .fields (by simp [serviceFields]) hnodup (survives_healthcheck h)
  have htaken : (true = true) = True := eq_self true
  have hrefused : (false = true) = False := Bool.false_eq_true
  cases hplace with
  | field hfield => exact htaken ▸ survives_scalarField name hfield
  | item i hfield => exact htaken ▸ survives_item name hfield i
  | value key => exact htaken ▸ .fields (by simp [serviceFields]) hnodup survives_variable
  | volume i hfield => exact htaken ▸ hvolumes (survives_volumeField hfield)
  | readOnly i => exact hrefused ▸ hvolumes survives_readOnly
  | port i hfield =>
    refine htaken ▸ .fields (by simp [serviceFields]; rfl) hnodup ?_
    exact survives_listOrNothing (fun _ => Iff.rfl) (survives_port name hfield)
  | test => exact htaken ▸ hhealthcheck survives_test
  | testWord i => exact htaken ▸ hhealthcheck survives_testWord
  | disable => exact hrefused ▸ hhealthcheck survives_disable

/-! ## A network -/

theorem survives_driver :
    (Demand.fields networkFields).SurvivesIff written [.key "driver"] True := by
  have hdriver : (Accepts (nullish text) fun _ => True).SurvivesIff written [] True :=
    .taken ⟨_, rfl, trivial⟩
  exact .fields (by simp [networkFields]) (by decide) hdriver

/-- A text is neither a flag nor a mapping. -/
theorem survives_external :
    (Demand.fields networkFields).SurvivesIff written [.key "external"] False := by
  have hexternal : (Accepts (nullish (either [flag, mapped (fun _ => true) anyRecord]))
      fun _ => True).SurvivesIff written [] False :=
    .refused Checked.not_meets_mismatched
  exact .fields (by simp [networkFields]) (by decide) hexternal

/-! ## A manifest -/

/-- **A manifest survives a reference** exactly where a text is taken. -/
theorem survives_manifest (name : VariableName) (hplace : ManifestPlace place takesText) :
    (Demand.fields manifestFields).SurvivesIff name.reference place (takesText = true) := by
  have hnodup : (manifestFields.map Prod.fst).Nodup := by simp [manifestFields]
  have hnetworks : ∀ {key field : String} {verdict : Prop},
      (Demand.fields networkFields).SurvivesIff name.reference [.key field] verdict →
        (Demand.fields manifestFields).SurvivesIff name.reference
          [.key "networks", .key key, .key field] verdict := by
    intro key field verdict h
    have hnull : ¬ Accepts network (fun _ => True) (some .null) := Checked.not_meets_mismatched
    have hnetwork : (Accepts (orNull network) fun _ => True).SurvivesIff name.reference
        [.key field] verdict :=
      .congr (fun _ => accepts_orNull_iff trivial hnull)
        (.orNull (.congr (fun _ => accepts_network_iff) h))
    have hrecord : (Accepts (record (orNull network)) fun _ => True).SurvivesIff name.reference
        [.key key, .key field] verdict :=
      .congr (fun _ => accepts_record_true_iff) (.entries hnetwork)
    exact .fields (by simp [manifestFields]) hnodup (survives_nullish hrecord)
  have htaken : (true = true) = True := eq_self true
  have hrefused : (false = true) = False := Bool.false_eq_true
  cases hplace with
  | @service place _ key hplace =>
    have hnull : ¬ Accepts service (fun _ => True) (some .null) := Checked.not_meets_mismatched
    have hservice : (Accepts (orNull service) fun shape => key ≠ reservedKey →
        ∃ s, reduceService key (shape.getD {}) = .ok s).SurvivesIff name.reference place
          (takesText = true) :=
      .congr (fun _ => accepts_orNull_iff (fun _ => ⟨_, rfl⟩) hnull)
        (.orNull (.congr (fun _ => accepts_service_iff) (survives_service name hplace)))
    have hentries : (Demand.entries fun key => Accepts (orNull service) fun shape =>
        key ≠ reservedKey → ∃ s, reduceService key (shape.getD {}) = .ok s).SurvivesIff
          name.reference (.key key :: place) (takesText = true) :=
      .entries hservice
    have hrecord : (Accepts (record (orNull service)) fun entries => ∀ entry ∈ entries,
        ∃ s, reduceService entry.1 (entry.2.getD {}) = .ok s).SurvivesIff name.reference
          (.key key :: place) (takesText = true) :=
      .congr (fun _ => accepts_record_iff (P := fun key (shape : Option ServiceShape) =>
        ∃ s, reduceService key (shape.getD {}) = .ok s)) hentries
    have hnullish : (Accepts (nullish (record (orNull service))) fun services =>
        ∀ entries ∈ services, ∀ entry ∈ entries, ∃ s,
          reduceService entry.1 (entry.2.getD {}) = .ok s).SurvivesIff name.reference
            (.key key :: place) (takesText = true) := by
      refine .congr (fun _ => accepts_nullish_iff (by simp)) (.orNull ?_)
      simpa only [Option.mem_some_iff, forall_eq'] using hrecord
    exact .fields (by simp [manifestFields]) hnodup hnullish
  | driver key => exact htaken ▸ hnetworks survives_driver
  | outside key => exact hrefused ▸ hnetworks survives_external

end Manifest

/-- A place of a manifest is reached through a mapping. -/
theorem ManifestPlace.exists_eq_key_cons {place : List Step} {takesText : Bool}
    (h : ManifestPlace place takesText) : ∃ key rest, place = .key key :: rest := by
  cases h <;> exact ⟨_, _, rfl⟩

/-- **Where a reference may stand.** In a manifest any scalar that is read may be replaced by
a reference to any variable, where the place takes a text; where it takes only a truth value the
manifest is refused. -/
theorem Document.ofTree_replaced_iff {path : String} {tree leaf : Tree} {place : List Step}
    {takesText : Bool} (name : VariableName) (hplace : ManifestPlace place takesText)
    (haccepted : ∃ document, ofTree path (some tree) = .ok document)
    (hat : tree.at? place = some leaf) (hleaf : leaf.isScalar = true) :
    (∃ document, ofTree path (some (tree.replaced place (.text name.reference))) = .ok document) ↔
      takesText = true := by
  rw [exists_ofTree_eq_ok_iff] at haccepted ⊢
  obtain ⟨key, rest, rfl⟩ := hplace.exists_eq_key_cons
  rcases haccepted with rfl | ⟨-, hfields⟩
  · cases hat
  -- The root stays a mapping, so only its fields matter.
  · obtain ⟨entries, hentries, -⟩ := id hfields
    rw [Option.bind_some] at hentries
    rw [← Manifest.survives_manifest name hplace tree leaf hfields hat hleaf]
    simp [Tree.replaced, hentries, Manifest.isMapping]

/-- A service with a health check that is switched off. -/
def switchedOff : Tree :=
  .mapping [("services", .mapping [("web", .mapping [("healthcheck",
    .mapping [("test", .text "curl -f localhost"), ("disable", .bool true)])])])]

/-- A field of the health check of `switchedOff`. -/
def checkField (name : String) : List Step :=
  [.key "services", .key "web", .key "healthcheck", .key name]

/-- The variable `TAG`. -/
def VariableName.tag : VariableName := ⟨'T', ['A', 'G'], rfl, List.all_eq_true.mp rfl⟩

theorem Document.ofTree_replaced_test :
    (∃ document, ofTree "compose.yml" (some switchedOff) = .ok document) ∧
      switchedOff.at? (checkField "test") = some (.text "curl -f localhost") ∧
      ((∃ document, ofTree "compose.yml" (some (switchedOff.replaced (checkField "test")
        (.text VariableName.tag.reference))) = .ok document) ↔ true = true) :=
  ⟨⟨_, rfl⟩, rfl, ofTree_replaced_iff .tag (.service "web" .test) ⟨_, rfl⟩ rfl rfl⟩

/-- Whether a health check is switched off cannot be left to a variable. -/
theorem Document.not_ofTree_replaced_disable :
    ManifestPlace (checkField "disable") false ∧
      (∃ document, ofTree "compose.yml" (some switchedOff) = .ok document) ∧
      switchedOff.at? (checkField "disable") = some (.bool true) ∧
      ¬ ∃ document, ofTree "compose.yml" (some (switchedOff.replaced (checkField "disable")
        (.text VariableName.tag.reference))) = .ok document := by
  refine ⟨.service "web" .disable, ⟨_, rfl⟩, rfl, ?_⟩
  rintro ⟨document, h⟩
  cases h

end ComposeLint
