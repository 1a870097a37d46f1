import ComposeLint.Proofs.Agreement
import ComposeLint.Proofs.ServiceByService

/-!
# Manifests that are read to the same document

What is read of a manifest is read of its named fields, so two manifests that agree in these are
both refused, or are the same document (`Document.toOption_ofTree_congr`). The readings of each
level stand in a list, as the demands on it do: `Manifest.volumeReadings`, `serviceReadings` and
so on up to `manifestReadings`. Only a port in the long form is looked at as a whole, because it
is shown before it is read; two of them must also be alike in whether they can be shown.
-/

namespace ComposeLint

open Check

/-! ## Results without their faults -/

section Except

variable {ε α β : Type}

theorem toOption_bind (x : Except ε α) (f : α → Except ε β) :
    (x >>= f).toOption = x.toOption.bind fun a => (f a).toOption := by
  cases x <;> rfl

theorem toOption_map (f : α → β) (x : Except ε α) : (x.map f).toOption = x.toOption.map f := by
  cases x <;> rfl

theorem toOption_eq_some_iff {x : Except ε α} {a : α} : x.toOption = some a ↔ x = .ok a := by
  cases x <;> simp [Except.toOption]

theorem toOption_eq_none_iff {x : Except ε α} : x.toOption = none ↔ ∀ a, x ≠ .ok a := by
  cases x <;> simp [Except.toOption]

/-- A list is read to the same values when its items are. -/
theorem toOption_mapM_congr {f : α → Except ε β} {xs ys : List α}
    (h : List.Forall₂ (fun x y => (f x).toOption = (f y).toOption) xs ys) :
    (xs.mapM f).toOption = (ys.mapM f).toOption := by
  induction h with
  | nil => rfl
  | cons hxy _ ih => simp only [List.mapM_cons, toOption_bind, hxy, ih]

end Except

namespace Check

variable {α : Type} {check : Check α} {R : α → α → Prop} {found found' : Option Tree}
  {entries : List (String × Tree)}

/-- Where nothing is accepted, nothing has to agree. -/
theorem agrees_of_not_accepts (h : ¬ Accepts check (fun _ => True) found)
    (h' : ¬ Accepts check (fun _ => True) found') : Agrees check R found found' := by
  have hnone : ∀ {found}, ¬ Accepts check (fun _ => True) found → (check found).value? = none := by
    intro found h
    refine Option.eq_none_iff_forall_ne_some.mpr fun value hvalue => h ?_
    exact ⟨value, Checked.value?_eq_some_iff.mp hvalue, trivial⟩
  rw [Agrees, Checked.Agree, hnone h, hnone h']
  exact .none

theorem agrees_mapped_of_not_accepts {β : Type} {f : α → β} {S : β → β → Prop}
    (h : ¬ Accepts check (fun _ => True) found) (h' : ¬ Accepts check (fun _ => True) found') :
    Agrees (mapped f check) S found found' :=
  agrees_of_not_accepts (by rwa [accepts_mapped]) (by rwa [accepts_mapped])

theorem not_accepts_text_of_entries? (h : found.bind Tree.entries? = some entries) :
    ¬ Accepts text (fun _ => True) found := by
  intro htext
  obtain ⟨s, rfl, -⟩ := accepts_text_iff.mp htext
  cases h

theorem not_accepts_whole_of_entries? (h : found.bind Tree.entries? = some entries) :
    ¬ Accepts whole (fun _ => True) found := by
  intro hwhole
  obtain ⟨n, rfl⟩ := exists_number_of_accepts_whole hwhole
  cases h

theorem agrees_listOrNothing (h : Likeness.items (Agrees check R) found found') :
    Agrees (Manifest.listOrNothing check) (List.Forall₂ R) found found' := by
  have hlist := agrees_list h
  obtain ⟨items, items', hitems, hitems', -⟩ := h
  refine agrees_mapped (agrees_nullish hlist (not_isNothing_of_items? hitems)
    (not_isNothing_of_items? hitems')) fun values values' hvalues => ?_
  cases hvalues with
  | none => exact .nil
  | some h => exact h

theorem agrees_orNull {R : Option α → Option α → Prop}
    (h : Agrees check (fun a b => R (some a) (some b)) found found')
    (hfound : found ≠ some .null) (hfound' : found' ≠ some .null) :
    Agrees (Manifest.orNull check) R found found' := by
  have hnothing : ∀ {found : Option Tree}, found ≠ some .null →
      ¬ Accepts nothing (fun _ => True) found :=
    fun hfound h => hfound (accepts_nothing_iff.mp h).1
  refine agrees_either (List.forall_mem_cons.mpr ⟨?_, List.forall_mem_singleton.mpr ?_⟩)
  · exact agrees_mapped h fun _ _ => id
  · exact agrees_mapped_of_not_accepts (hnothing hfound) (hnothing hfound')

end Check

open Check

namespace Manifest

/-! ## Health checks, networks and volumes -/

/-- What is read of a health check. -/
def healthcheckReadings : List (String × Likeness) :=
  [("test", Agrees (nullish (either [mapped some text, mapped List.head? (list text)])) Eq),
    ("disable", Agrees (nullish flag) Eq)]

variable {found found' : Option Tree}

theorem agrees_healthcheck (h : Likeness.fields healthcheckReadings found found') :
    Agrees healthcheck Eq found found' := by
  obtain ⟨entries, entries', hentries, hentries', hfields⟩ := h
  simp only [healthcheckReadings, List.forall_mem_cons] at hfields
  obtain ⟨htest, hdisable, -⟩ := hfields
  refine agrees_object hentries hentries' ?_
  refine .seq (.map (agree_field htest) ?_) (agree_field hdisable)
  rintro test _ rfl disable _ rfl
  rfl

theorem agrees_nullish_healthcheck
    (h : (Likeness.fields healthcheckReadings).orSame found found') :
    Agrees (nullish healthcheck) Eq found found' := by
  obtain rfl | h := h
  · exact agrees_refl fun _ => rfl
  · have hcheck := agrees_healthcheck h
    obtain ⟨entries, entries', hentries, hentries', -⟩ := h
    exact agrees_nullish_eq hcheck (not_isNothing_of_entries? hentries)
      (not_isNothing_of_entries? hentries')

/-- What is read of a declared network. -/
def networkReadings : List (String × Likeness) :=
  [("external", Agrees (nullish (either [flag, mapped (fun _ => true) anyRecord])) Eq),
    ("driver", Agrees (nullish text) Eq)]

theorem agrees_network (h : Likeness.fields networkReadings found found') :
    Agrees network Eq found found' := by
  obtain ⟨entries, entries', hentries, hentries', hfields⟩ := h
  simp only [networkReadings, List.forall_mem_cons] at hfields
  obtain ⟨hexternal, hdriver, -⟩ := hfields
  refine agrees_object hentries hentries' ?_
  refine .seq (.map (agree_field hexternal) ?_) (agree_field hdriver)
  rintro isExternal _ rfl driver _ rfl
  rfl

/-- What is read of a volume in the long form. -/
def volumeReadings : List (String × Likeness) :=
  [("type", Agrees (optional text) Eq), ("source", Agrees (nullish text) Eq),
    ("target", Agrees text Eq), ("read_only", Agrees (nullish flag) Eq)]

theorem agrees_volume (h : Likeness.fields volumeReadings found found') :
    Agrees volume Eq found found' := by
  obtain ⟨entries, entries', hentries, hentries', hfields⟩ := h
  simp only [volumeReadings, List.forall_mem_cons] at hfields
  obtain ⟨htype, hsource, htarget, hreadOnly, -⟩ := hfields
  refine agrees_either (List.forall_mem_cons.mpr ⟨?_, List.forall_mem_singleton.mpr ?_⟩)
  · exact agrees_mapped_of_not_accepts (not_accepts_text_of_entries? hentries)
      (not_accepts_text_of_entries? hentries')
  · refine agrees_object hentries hentries' ?_
    refine .seq (.seq (.seq (.map (agree_field htype) ?_) (agree_field hsource))
      (agree_field htarget)) (agree_field hreadOnly)
    rintro _ _ - source _ rfl target _ rfl readOnly _ rfl
    rfl

theorem agrees_volumes (h : (Likeness.fields volumeReadings).orSame.items found found') :
    Agrees (listOrNothing volume) Eq found found' := by
  have hitems : Likeness.items (Agrees volume Eq) found found' :=
    h.imp fun _ _ hvolume => agrees_orSame (fun _ => rfl) (hvolume.imp_right agrees_volume)
  exact agrees_imp (agrees_listOrNothing hitems) fun _ _ => List.forall₂_eq_eq_eq ▸ id

/-! ## Ports -/

/-- A port in the long form can be shown. -/
def portShown : Demand := fun found =>
  ∀ entries, found.bind Tree.entries? = some entries →
    (Tree.mapping (shownEntries entries)).circle? = none

/-- What is read of a port in the long form. -/
def portReadings : List (String × Likeness) :=
  [("target", Agrees portSide Eq), ("published", Agrees (nullish portSide) Eq),
    ("host_ip", Agrees (nullish text) Eq), ("protocol", Agrees (nullish text) Eq),
    ("mode", Agrees (nullish text) Eq)]

/-- Two ports of a service that are the same binding, or none. Of a service that is not kept only
the shape is looked at. -/
def SamePort (name : String) (kept : Prop) (port port' : PortShape) : Prop :=
  kept → (binding name port).toOption = (binding name port').toOption

/-- A port in the long form has a binding by its fields, if it can be shown. -/
theorem toOption_binding_long (name : String) (port : LongPort) :
    (binding name (.long port)).toOption =
      if (Tree.mapping port.entries).circle? = none then PortBinding.ofLong? port else none := by
  simp only [binding]
  cases (Tree.mapping port.entries).circle? with
  | none => cases PortBinding.ofLong? port <;> rfl
  | some circle => rfl

/-- Two ports in the long form that agree in the fields that are read and in whether they can be
shown. -/
def portAlike (kept : Prop) : Likeness := fun found found' =>
  Likeness.fields portReadings found found' ∧ (kept → (portShown found ↔ portShown found'))

/-- **Two ports that are alike are the same binding.** -/
theorem agrees_port {name : String} {kept : Prop} (h : portAlike kept found found') :
    Agrees port (SamePort name kept) found found' := by
  obtain ⟨⟨entries, entries', hentries, hentries', hfields⟩, hshown⟩ := h
  simp only [portReadings, List.forall_mem_cons] at hfields
  obtain ⟨htarget, hpublished, hip, hprotocol, hmode, -⟩ := hfields
  refine agrees_either (List.forall_mem_cons.mpr ⟨?_, List.forall_mem_cons.mpr
    ⟨?_, List.forall_mem_singleton.mpr ?_⟩⟩)
  · exact agrees_mapped_of_not_accepts (not_accepts_whole_of_entries? hentries)
      (not_accepts_whole_of_entries? hentries')
  · exact agrees_mapped_of_not_accepts (not_accepts_text_of_entries? hentries)
      (not_accepts_text_of_entries? hentries')
  · refine agrees_object hentries hentries' ?_
    refine .seq (.seq (.seq (.seq (.map (agree_field htarget) ?_) (agree_field hpublished))
      (agree_field hip)) (agree_field hprotocol)) (agree_field hmode)
    rintro target _ rfl published _ rfl ip _ rfl protocol _ rfl _ _ - hkept
    simp only [portShown, hentries, hentries', Option.some.injEq, forall_eq'] at hshown
    rw [toOption_binding_long, toOption_binding_long]
    exact if_congr (hshown hkept) rfl rfl

theorem SamePort.refl (name : String) (kept : Prop) (port : PortShape) :
    SamePort name kept port port := fun _ => rfl

theorem agrees_ports {name : String} {kept : Prop}
    (h : (portAlike kept).orSame.items found found') :
    Agrees (listOrNothing port) (List.Forall₂ (SamePort name kept)) found found' := by
  refine agrees_listOrNothing (h.imp fun _ _ hport => ?_)
  exact agrees_orSame (SamePort.refl name kept)
    (hport.imp_right agrees_port)

/-! ## Services -/

/-- Two services of a name that are reduced to the same one, or not at all. -/
def SameService (name : String) (kept : Prop) (shape shape' : ServiceShape) : Prop :=
  kept → (reduceService name shape).toOption = (reduceService name shape').toOption

/-- The bindings of a service are all that is taken from its ports. -/
theorem toOption_reduceService_congr {name : String} {kept : Prop} (shape : ServiceShape)
    {ports ports' : List PortShape}
    (h : List.Forall₂ (SamePort name kept) ports ports') :
    SameService name kept { shape with ports := ports } { shape with ports := ports' } := by
  intro hkept
  have hports : (ports.mapM (binding name)).toOption = (ports'.mapM (binding name)).toOption :=
    toOption_mapM_congr (h.imp fun _ _ hport => hport hkept)
  simp only [reduceService, toOption_bind, hports]

/-- What is read of a service. -/
def serviceReadings (name : String) (kept : Prop) : List (String × Likeness) :=
  [("image", Agrees (nullish text) Eq),
    ("privileged", Agrees (nullish (either [flagScalar, textScalar])) Eq),
    ("cap_add", Agrees (listOrNothing text) Eq),
    ("command", Agrees (nullish command) Eq),
    ("network_mode", Agrees (nullish text) Eq),
    ("volumes", Agrees (listOrNothing volume) Eq),
    ("environment", Agrees (nullish environment) Eq),
    ("user", Agrees (nullish (either [textScalar, numberScalar])) Eq),
    ("security_opt", Agrees (listOrNothing text) Eq),
    ("ports", Agrees (listOrNothing port) (List.Forall₂ (SamePort name kept))),
    ("restart", Agrees (nullish (either [textScalar, flagScalar])) Eq),
    ("networks", Agrees namesOrNothing Eq),
    ("depends_on", Agrees namesOrNothing Eq),
    ("healthcheck", Agrees (nullish healthcheck) Eq)]

/-- **Two services agree field by field.** -/
theorem agrees_service {name : String} {kept : Prop}
    (h : Likeness.fields (serviceReadings name kept) found found') :
    Agrees service (SameService name kept) found found' := by
  obtain ⟨entries, entries', hentries, hentries', hfields⟩ := h
  simp only [serviceReadings, List.forall_mem_cons] at hfields
  obtain ⟨himage, hprivileged, hcapabilities, hcommand, hnetworkMode, hvolumes, henvironment,
    huser, hsecurityOptions, hports, hrestart, hnetworks, hdependsOn, hhealthcheck, -⟩ := hfields
  refine agrees_object hentries hentries' ?_
  refine .seq ?_ (agree_field hhealthcheck)
  refine .seq ?_ (agree_field hdependsOn)
  refine .seq ?_ (agree_field hnetworks)
  refine .seq ?_ (agree_field hrestart)
  refine .seq ?_ (agree_field hports)
  refine .seq ?_ (agree_field hsecurityOptions)
  refine .seq ?_ (agree_field huser)
  refine .seq ?_ (agree_field henvironment)
  refine .seq ?_ (agree_field hvolumes)
  refine .seq ?_ (agree_field hnetworkMode)
  refine .seq ?_ (agree_field hcommand)
  refine .seq ?_ (agree_field hcapabilities)
  refine .seq (.map (agree_field himage) ?_) (agree_field hprivileged)
  rintro image _ rfl privileged _ rfl capabilities _ rfl command _ rfl networkMode _ rfl volumes _
    rfl environment _ rfl user _ rfl securityOptions _ rfl ports ports' hports restart _ rfl
    networks _ rfl dependsOn _ rfl healthcheck _ rfl
  exact toOption_reduceService_congr ⟨image, privileged, capabilities, command, networkMode,
    volumes, environment, user, securityOptions, [], restart, networks, dependsOn, healthcheck⟩
    hports

/-! ## Manifests -/

/-- Two entries that are reduced to the same service, or not at all. -/
def SameEntry (entry entry' : String × Option ServiceShape) : Prop :=
  (reduceEntry entry).toOption = (reduceEntry entry').toOption

theorem SameEntry.refl (entry : String × Option ServiceShape) : SameEntry entry entry := rfl

theorem sameEntry_of_sameService {name : String} {shape shape' : ServiceShape}
    (h : (reduceService name shape).toOption = (reduceService name shape').toOption) :
    SameEntry (name, some shape) (name, some shape') := by
  rw [SameEntry, reduceEntry, reduceEntry, toOption_map, toOption_map]
  exact congrArg _ h

/-- **Two records agree one by one**, where an entry that is null declares nothing more. -/
theorem agrees_nullish_record {α : Type} {check : Check α}
    {readings : String → List (String × Likeness)} {R : String → Option α → Option α → Prop}
    (hrefl : ∀ name a, R name a a)
    (hcheck : ∀ name found found', Likeness.fields (readings name) found found' →
      Agrees check (fun a b => name ≠ reservedKey → R name (some a) (some b)) found found')
    (h : Likeness.entries (fun name => (Likeness.fields (readings name)).orSame) found found') :
    Agrees (nullish (record (orNull check)))
      (Option.Rel <| List.Forall₂ fun entry entry' =>
        entry.1 = entry'.1 ∧ R entry.1 entry.2 entry'.2) found found' := by
  have hentry : ∀ name found found', (Likeness.fields (readings name)).orSame found found' →
      Agrees (orNull check) (fun a b => name ≠ reservedKey → R name a b) found found' := by
    intro name found found' halike
    obtain rfl | halike := halike
    · exact agrees_refl fun a _ => hrefl name a
    · have hagrees := hcheck name found found' halike
      obtain ⟨entries, entries', hentries, hentries', -⟩ := halike
      exact agrees_orNull hagrees (not_isNothing_of_entries? hentries ∘ .inr)
        (not_isNothing_of_entries? hentries' ∘ .inr)
  have hrecord := agrees_record (h.imp hentry)
  obtain ⟨entries, entries', hentries, hentries', -⟩ := h
  exact agrees_nullish hrecord (not_isNothing_of_entries? hentries)
    (not_isNothing_of_entries? hentries')

/-- **The services of two manifests agree one by one.** -/
theorem agrees_services
    (h : Likeness.entries
      (fun name => (Likeness.fields (serviceReadings name (name ≠ reservedKey))).orSame)
      found found') :
    Agrees (nullish (record (orNull service))) (Option.Rel (List.Forall₂ SameEntry))
      found found' := by
  have hservice : ∀ name found found',
      Likeness.fields (serviceReadings name (name ≠ reservedKey)) found found' →
        Agrees service (fun shape shape' =>
          name ≠ reservedKey → SameEntry (name, some shape) (name, some shape')) found found' :=
    fun name _ _ halike => agrees_imp (agrees_service halike) fun _ _ hsame hname =>
      sameEntry_of_sameService (hsame hname)
  have hservices := agrees_nullish_record
    (R := fun name shape shape' => SameEntry (name, shape) (name, shape'))
    (fun name shape => .refl (name, shape)) hservice h
  refine agrees_imp hservices fun _ _ hshapes => ?_
  cases hshapes with
  | none => exact .none
  | some hall =>
    refine .some (hall.imp fun (name, shape) (name', shape') ⟨hname, hentry⟩ => ?_)
    obtain rfl : name = name' := hname
    exact hentry

/-- **The declared networks of two manifests agree one by one.** -/
theorem agrees_networks
    (h : Likeness.entries (fun _ => (Likeness.fields networkReadings).orSame) found found') :
    Agrees (nullish (record (orNull network))) Eq found found' := by
  have hnetwork : ∀ name found found', Likeness.fields networkReadings found found' →
      Agrees network (fun shape shape' => name ≠ reservedKey → some shape = some shape')
        found found' :=
    fun _ _ _ halike => agrees_imp (agrees_network halike) fun _ _ hsame _ => congrArg some hsame
  have hnetworks := agrees_nullish_record (R := fun _ => Eq) (fun _ _ => rfl) hnetwork h
  refine agrees_imp hnetworks fun _ _ hshapes => ?_
  cases hshapes with
  | none => rfl
  | some hall =>
    have heq := hall.imp fun _ _ hentry => Prod.ext hentry.1 hentry.2
    exact congrArg some (List.forall₂_eq_eq_eq ▸ heq)

/-- What is read of a manifest. -/
def manifestReadings : List (String × Likeness) :=
  [("services", Agrees (nullish (record (orNull service))) (Option.Rel (List.Forall₂ SameEntry))),
    ("networks", Agrees (nullish (record (orNull network))) Eq),
    ("volumes", Agrees (nullish anyRecord) Eq)]

theorem agrees_manifest (path : String) (h : Likeness.fields manifestReadings found found') :
    Agrees manifest
      (fun shape shape' => (reduce path shape).toOption = (reduce path shape').toOption)
      found found' := by
  obtain ⟨entries, entries', hentries, hentries', hfields⟩ := h
  simp only [manifestReadings, List.forall_mem_cons] at hfields
  obtain ⟨hservices, hnetworks, hvolumes, -⟩ := hfields
  refine agrees_object hentries hentries' ?_
  refine .seq (.seq (.map (agree_field hservices) ?_) (agree_field hnetworks))
    (agree_field hvolumes)
  rintro services services' hservices networks _ rfl volumes _ rfl
  simp only [reduce]
  cases hservices with
  | none => rfl
  | some hentries =>
    simp only [toOption_map]
    rw [toOption_mapM_congr hentries]

/-! ## What stays as it is -/

/-- Whatever stands in a place is read there like itself. -/
def Reflexive (readings : List (String × Likeness)) : Prop :=
  ∀ reading ∈ readings, ∀ found, reading.2 found found

theorem reflexive_healthcheckReadings : Reflexive healthcheckReadings := by
  simp [Reflexive, healthcheckReadings, agrees_refl]

theorem reflexive_networkReadings : Reflexive networkReadings := by
  simp [Reflexive, networkReadings, agrees_refl]

theorem reflexive_volumeReadings : Reflexive volumeReadings := by
  simp [Reflexive, volumeReadings, agrees_refl]

theorem reflexive_portReadings : Reflexive portReadings := by
  simp [Reflexive, portReadings, agrees_refl]

theorem forall₂_samePort_refl (name : String) (kept : Prop) (ports : List PortShape) :
    List.Forall₂ (SamePort name kept) ports ports :=
  List.forall₂_same.mpr fun port _ => .refl name kept port

theorem reflexive_serviceReadings (name : String) (kept : Prop) :
    Reflexive (serviceReadings name kept) := by
  simp [Reflexive, serviceReadings, agrees_refl, agrees_refl (forall₂_samePort_refl name kept)]

theorem rel_forall₂_sameEntry_refl (services : Option (List (String × Option ServiceShape))) :
    Option.Rel (List.Forall₂ SameEntry) services services := by
  cases services with
  | none => exact .none
  | some entries => exact .some (List.forall₂_same.mpr fun entry _ => .refl entry)

theorem reflexive_manifestReadings : Reflexive manifestReadings := by
  simp [Reflexive, manifestReadings, agrees_refl, rel_forall₂_sameEntry_refl]

end Manifest

namespace Document

variable {path : String} {tree tree' : Tree}

/-- What has entries is read by its shape. -/
theorem toOption_ofTree {entries : List (String × Tree)} (h : tree.entries? = some entries) :
    (ofTree path (some tree)).toOption =
      (Manifest.manifest (some tree)).value?.bind fun shape =>
        (Manifest.reduce path shape).toOption := by
  rw [ofTree, Manifest.isMapping_of_entries? h]
  · cases Manifest.manifest (some tree) <;> rfl
  · rintro rfl
    cases h

/-- **Two manifests that agree in what is read of them are both refused, or the same document.** -/
theorem toOption_ofTree_congr
    (h : Likeness.fields Manifest.manifestReadings (some tree) (some tree')) :
    (ofTree path (some tree)).toOption = (ofTree path (some tree')).toOption := by
  have hmanifest := Manifest.agrees_manifest path h
  obtain ⟨entries, entries', hentries, hentries', -⟩ := h
  rw [toOption_ofTree hentries, toOption_ofTree hentries']
  rw [Agrees, Checked.Agree] at hmanifest
  generalize (Manifest.manifest (some tree)).value? = shape? at hmanifest ⊢
  generalize (Manifest.manifest (some tree')).value? = shape?' at hmanifest ⊢
  cases hmanifest with
  | none => rfl
  | some h => exact h

end Document

end ComposeLint
