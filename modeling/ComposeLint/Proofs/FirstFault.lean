import ComposeLint.Proofs.FieldByField

/-!
# What refuses a manifest

A manifest is refused for one reason. A root that is no mapping comes before a shape that is wrong,
and both come before what is wrong with a field. Services are taken one after the other, and of a
service the restart policy before the volumes and the volumes before the ports; the first that is
refused (`FirstRefused`) refuses the manifest (`Manifest.Refuses`, `Document.ofTree_eq_error_iff`).
So a document lacks no service for a fault in it (`Document.judges`). Two things are no such
reasons: what stands under the reserved key is not looked at, and a port that stands inside itself
is refused whatever it says (`Document.not_forall_judged`).
-/

namespace ComposeLint

open Check

variable {α β ε : Type}

/-! ## The first that is refused -/

/-- The first item of a list that is refused, by why it is. -/
inductive FirstRefused (Refuses : α → ε → Prop) : List α → ε → Prop
  | here {x : α} {xs : List α} {fault : ε} :
      Refuses x fault → FirstRefused Refuses (x :: xs) fault
  | later {x : α} {xs : List α} {fault : ε} : (∀ fault, ¬ Refuses x fault) →
      FirstRefused Refuses xs fault → FirstRefused Refuses (x :: xs) fault

section FirstRefused

variable {Refuses : α → ε → Prop} {x : α} {xs : List α} {fault : ε}

theorem not_firstRefused_nil : ¬ FirstRefused Refuses [] fault := by
  intro h
  cases h

theorem firstRefused_cons_iff : FirstRefused Refuses (x :: xs) fault ↔
    Refuses x fault ∨ (∀ fault, ¬ Refuses x fault) ∧ FirstRefused Refuses xs fault := by
  constructor
  · rintro (hx | ⟨hx, hxs⟩)
    · exact .inl hx
    · exact .inr ⟨hx, hxs⟩
  · rintro (hx | ⟨hx, hxs⟩)
    · exact .here hx
    · exact .later hx hxs

/-- **Nothing before the first item that is refused is.** -/
theorem firstRefused_iff : FirstRefused Refuses xs fault ↔
    ∃ before x after, xs = before ++ x :: after ∧ (∀ y ∈ before, ∀ fault, ¬ Refuses y fault) ∧
      Refuses x fault := by
  constructor
  · intro h
    induction h with
    | here hx => exact ⟨[], _, _, rfl, by simp, hx⟩
    | later hx _ ih =>
      obtain ⟨before, y, after, rfl, hbefore, hy⟩ := ih
      exact ⟨_ :: before, y, after, rfl, List.forall_mem_cons.mpr ⟨hx, hbefore⟩, hy⟩
  · rintro ⟨before, x, after, rfl, hbefore, hx⟩
    induction before with
    | nil => exact .here hx
    | cons y before ih =>
      rw [List.forall_mem_cons] at hbefore
      exact .later hbefore.1 (ih hbefore.2)

theorem FirstRefused.exists_mem (h : FirstRefused Refuses xs fault) :
    ∃ x ∈ xs, Refuses x fault := by
  obtain ⟨before, x, after, rfl, -, hx⟩ := firstRefused_iff.mp h
  exact ⟨x, by simp, hx⟩

theorem exists_firstRefused_iff :
    (∃ fault, FirstRefused Refuses xs fault) ↔ ∃ x ∈ xs, ∃ fault, Refuses x fault := by
  induction xs with
  | nil => simp [not_firstRefused_nil]
  | cons x xs ih =>
    simp only [firstRefused_cons_iff, exists_or, exists_and_left, ih, List.exists_mem_cons_iff]
    by_cases hx : ∃ fault, Refuses x fault
    · simp only [hx, true_or]
    · simp [not_exists.mp hx]

theorem forall_not_firstRefused_iff : (∀ fault, ¬ FirstRefused Refuses xs fault) ↔
    ∀ x ∈ xs, ∀ fault, ¬ Refuses x fault := by
  simpa only [not_exists, not_and] using not_congr exists_firstRefused_iff

theorem bind_eq_error_iff {f : α → Except ε β} {read : Except ε α} :
    read >>= f = .error fault ↔
      read = .error fault ∨ ∃ value, read = .ok value ∧ f value = .error fault := by
  cases read <;> simp [bind, Except.bind]

theorem map_eq_error_iff {f : α → β} {read : Except ε α} :
    read.map f = .error fault ↔ read = .error fault := by
  cases read <;> simp [Except.map]

/-- What is not refused is read. -/
theorem exists_eq_ok_iff {read : Except ε α} :
    (∃ value, read = .ok value) ↔ ∀ fault, read ≠ .error fault := by
  cases read <;> simp

/-- **Reading one after another stops at the first item that is refused.** -/
theorem mapM_eq_error_iff {f : α → Except ε β}
    (hf : ∀ x fault, f x = .error fault ↔ Refuses x fault) :
    xs.mapM f = .error fault ↔ FirstRefused Refuses xs fault := by
  induction xs with
  | nil => simp [not_firstRefused_nil, pure, Except.pure]
  | cons x xs ih =>
    rw [List.mapM_cons, firstRefused_cons_iff, ← hf, ← ih]
    simp only [← hf]
    cases f x with
    | error other => simp [bind, Except.bind]
    | ok value => cases xs.mapM f <;> simp [bind, Except.bind, pure, Except.pure]

/-- What is left out before reading refuses nothing. -/
theorem firstRefused_filter_iff {R : α → β → Prop} {Refuses' : β → ε → Prop} {p : β → Bool}
    {ys : List β} (h : List.Forall₂ R xs ys)
    (hitem : ∀ x y, R x y → ∀ fault, Refuses x fault ↔ p y = true ∧ Refuses' y fault) :
    FirstRefused Refuses' (ys.filter p) fault ↔ FirstRefused Refuses xs fault := by
  induction h with
  | nil => exact iff_of_false not_firstRefused_nil not_firstRefused_nil
  | @cons x y xs ys hxy _ ih =>
    rw [firstRefused_cons_iff, ← ih]
    simp only [hitem x y hxy]
    cases hp : p y
    · simp [hp]
    · simp [hp, firstRefused_cons_iff]

end FirstRefused

/-! ## What refuses a service -/

namespace Manifest

/-- What refuses a restart policy: it is none, and no `false`. -/
inductive RefusesRestart (name : String) : Option Scalar → ManifestFault → Prop
  | unknown {written : Scalar} : written ≠ .flag false →
      RestartSetting.parse? written.toText = none →
        RefusesRestart name (some written) (.unknownRestartPolicy name written.toText)

/-- What refuses a volume: its short form is none. -/
inductive RefusesVolume (name : String) : VolumeShape → ManifestFault → Prop
  | short {written : String} : Mount.parse? written = none →
      RefusesVolume name (.short written) (.invalidVolume name written)

/-- What refuses a port. -/
inductive RefusesPort (name : String) : PortShape → ManifestFault → Prop
  /-- Its short form is none. -/
  | short {written : String} : PortBinding.parse? written = none →
      RefusesPort name (.short written) (.invalidPort name written)
  /-- Its long form is none. -/
  | long {port : LongPort} : (Tree.mapping port.entries).circle? = none →
      PortBinding.ofLong? port = none →
        RefusesPort name (.long port) (.invalidPort name (Tree.mapping port.entries).json)
  /-- Its long form stands inside itself. -/
  | circular {port : LongPort} {circle : Circle} :
      (Tree.mapping port.entries).circle? = some circle →
        RefusesPort name (.long port) (.circularPort circle)

/-- What refuses a service first: its restart policy, or a volume, or a port. -/
inductive RefusesService (name : String) (shape : ServiceShape) : ManifestFault → Prop
  | restart {fault : ManifestFault} : RefusesRestart name shape.restart fault →
      RefusesService name shape fault
  /-- The restart policy is not refused, but a volume. -/
  | volume {fault : ManifestFault} : (∀ fault, ¬ RefusesRestart name shape.restart fault) →
      FirstRefused (RefusesVolume name) shape.volumes fault → RefusesService name shape fault
  /-- Neither the restart policy nor a volume is refused, but a port. -/
  | port {fault : ManifestFault} : (∀ fault, ¬ RefusesRestart name shape.restart fault) →
      (∀ volume ∈ shape.volumes, ∀ fault, ¬ RefusesVolume name volume fault) →
        FirstRefused (RefusesPort name) shape.ports fault → RefusesService name shape fault

variable {name : String} {fault : ManifestFault} {shape : ServiceShape}

theorem orFault_eq_error_iff {fault' : ManifestFault} {result : Option α} :
    orFault fault' result = .error fault ↔ result = none ∧ fault' = fault := by
  cases result <;> simp [orFault]

theorem restart_eq_error_iff {written : Option Scalar} :
    restart name written = .error fault ↔ RefusesRestart name written fault := by
  constructor
  · intro h
    unfold restart at h
    split at h
    · cases h
    · cases h
    · next written hnot =>
      obtain ⟨hnone, rfl⟩ := orFault_eq_error_iff.mp (map_eq_error_iff.mp h)
      exact .unknown (hnot) hnone
  · rintro ⟨hnot, hnone⟩
    unfold restart
    split
    · next heq => cases heq
    · next heq => exact absurd (Option.some.inj heq) hnot
    · next written heq =>
      obtain rfl := Option.some.inj heq
      exact map_eq_error_iff.mpr (orFault_eq_error_iff.mpr ⟨hnone, rfl⟩)

theorem mount_eq_error_iff {volume : VolumeShape} :
    mount name volume = .error fault ↔ RefusesVolume name volume fault := by
  constructor
  · intro h
    cases volume with
    | short written =>
      obtain ⟨hnone, rfl⟩ := orFault_eq_error_iff.mp h
      exact .short hnone
    | long => cases h
  · rintro ⟨hnone⟩
    exact orFault_eq_error_iff.mpr ⟨hnone, rfl⟩

theorem binding_eq_error_iff {port : PortShape} :
    binding name port = .error fault ↔ RefusesPort name port fault := by
  constructor
  · intro h
    cases port with
    | short written =>
      obtain ⟨hnone, rfl⟩ := orFault_eq_error_iff.mp h
      exact .short hnone
    | long port =>
      simp only [binding] at h
      split at h
      · next circle hcircle =>
        cases h
        exact .circular hcircle
      · next hcircle =>
        obtain ⟨hnone, rfl⟩ := orFault_eq_error_iff.mp h
        exact .long hcircle hnone
  · intro h
    cases h with
    | short hnone => exact orFault_eq_error_iff.mpr ⟨hnone, rfl⟩
    | long hcircle hnone =>
      simp only [binding, hcircle]
      exact orFault_eq_error_iff.mpr ⟨hnone, rfl⟩
    | circular hcircle => simp only [binding, hcircle]

/-- **A service is refused for the first fault in it.** -/
theorem reduceService_eq_error_iff :
    reduceService name shape = .error fault ↔ RefusesService name shape fault := by
  have hvolumes : ∀ fault, shape.volumes.mapM (mount name) = .error fault ↔
      FirstRefused (RefusesVolume name) shape.volumes fault := fun _ =>
    mapM_eq_error_iff fun _ _ => mount_eq_error_iff
  have hports : ∀ fault, shape.ports.mapM (binding name) = .error fault ↔
      FirstRefused (RefusesPort name) shape.ports fault := fun _ =>
    mapM_eq_error_iff fun _ _ => binding_eq_error_iff
  have hmounts : (∃ mounts, shape.volumes.mapM (mount name) = .ok mounts) ↔
      ∀ volume ∈ shape.volumes, ∀ fault, ¬ RefusesVolume name volume fault := by
    simp only [exists_eq_ok_iff, ne_eq, hvolumes, forall_not_firstRefused_iff]
  have hrestart : (∃ setting, restart name shape.restart = .ok setting) ↔
      ∀ fault, ¬ RefusesRestart name shape.restart fault := by
    simp only [exists_eq_ok_iff, ne_eq, restart_eq_error_iff]
  simp only [reduceService, bind_eq_error_iff, hvolumes, hports, restart_eq_error_iff]
  constructor
  · rintro (hfault | ⟨setting, hsetting, hfault | ⟨mounts, hread, hfault | ⟨_, -, hdone⟩⟩⟩)
    · exact .restart hfault
    · exact .volume (hrestart.mp ⟨setting, hsetting⟩) hfault
    · exact .port (hrestart.mp ⟨setting, hsetting⟩) (hmounts.mp ⟨mounts, hread⟩) hfault
    · cases hdone
  · rintro (hfault | ⟨hsetting, hfault⟩ | ⟨hsetting, hread, hfault⟩)
    · exact .inl hfault
    · obtain ⟨setting, hsetting⟩ := hrestart.mpr hsetting
      exact .inr ⟨setting, hsetting, .inl hfault⟩
    · obtain ⟨setting, hsetting⟩ := hrestart.mpr hsetting
      obtain ⟨mounts, hread⟩ := hmounts.mpr hread
      exact .inr ⟨setting, hsetting, .inr ⟨mounts, hread, .inl hfault⟩⟩

/-- Whether something in a service refuses it. -/
def IsRefused (name : String) (shape : ServiceShape) : Prop :=
  (∃ fault, RefusesRestart name shape.restart fault) ∨
    (∃ volume ∈ shape.volumes, ∃ fault, RefusesVolume name volume fault) ∨
      ∃ port ∈ shape.ports, ∃ fault, RefusesPort name port fault

theorem exists_refusesService_iff :
    (∃ fault, RefusesService name shape fault) ↔ IsRefused name shape := by
  constructor
  · rintro ⟨fault, hrestart | ⟨-, hvolume⟩ | ⟨-, -, hport⟩⟩
    · exact .inl ⟨fault, hrestart⟩
    · exact .inr (.inl (exists_firstRefused_iff.mp ⟨fault, hvolume⟩))
    · exact .inr (.inr (exists_firstRefused_iff.mp ⟨fault, hport⟩))
  · intro h
    by_cases hrestart : ∃ fault, RefusesRestart name shape.restart fault
    · obtain ⟨fault, hrestart⟩ := hrestart
      exact ⟨fault, .restart hrestart⟩
    by_cases hvolume : ∃ volume ∈ shape.volumes, ∃ fault, RefusesVolume name volume fault
    · obtain ⟨fault, hvolume⟩ := exists_firstRefused_iff.mpr hvolume
      exact ⟨fault, .volume (not_exists.mp hrestart) hvolume⟩
    · obtain ⟨fault, hport⟩ :=
        exists_firstRefused_iff.mpr ((h.resolve_left hrestart).resolve_left hvolume)
      refine ⟨fault, .port (not_exists.mp hrestart) (fun volume hmem fault hfault => ?_) hport⟩
      exact hvolume ⟨volume, hmem, fault, hfault⟩

/-! ## What refuses a manifest -/

/-- The shape that a service has. Null is a service without fields. -/
def HasShape (tree : Tree) (shape : ServiceShape) : Prop :=
  ∃ fields, Tree.declared? (some tree) = some fields ∧ shape.ReadFrom fields

/-- What refuses a service under its name. Under the reserved key nothing does. -/
def RefusesEntry (entry : String × Tree) (fault : ManifestFault) : Prop :=
  entry.1 ≠ reservedKey ∧ ∃ shape, HasShape entry.2 shape ∧ RefusesService entry.1 shape fault

/-- What refuses a manifest. -/
inductive Refuses (tree : Tree) : ManifestFault → Prop
  /-- Its root is no mapping, and not empty. -/
  | notAMapping : tree ≠ .null → isMapping tree = false → Refuses tree .notAMapping
  /-- Its shape is wrong somewhere. -/
  | wrongShape {issues : List Issue} : isMapping tree = true →
      manifest (some tree) = .flawed issues ∨ manifest (some tree) = .mismatched issues →
        Refuses tree (.wrongShape issues)
  /-- Its shape is right everywhere, but a service is refused. -/
  | service {services : List (String × Tree)} {fault : ManifestFault} : isMapping tree = true →
      Accepts manifest (fun _ => True) (some tree) → tree.services? = some services →
        FirstRefused RefusesEntry services fault → Refuses tree fault

/-- Whether a tree should be refused: it is neither empty nor a mapping, or its shape is wrong, or
one of the services that are looked at is refused. -/
def IsFaulty (Looked : String → Prop) (tree : Tree) : Prop :=
  tree ≠ .null ∧ (isMapping tree = false ∨ ¬ Accepts manifest (fun _ => True) (some tree) ∨
    ∃ services, tree.services? = some services ∧ ∃ entry ∈ services, Looked entry.1 ∧
      ∃ shape, HasShape entry.2 shape ∧ IsRefused entry.1 shape)

variable {tree : Tree} {path : String}

theorem ne_null_of_isMapping (h : isMapping tree = true) : tree ≠ .null := by
  rintro rfl
  cases h

theorem hasShape_iff : HasShape tree shape ↔
    ∃ read, orNull service (some tree) = .valid read ∧ read.getD {} = shape := by
  have hread : Accepts (orNull service) (fun read => read.getD {} = shape) (some tree) ↔ _ :=
    accepts_orNull_service_iff (P := fun read => read = shape)
  refine Iff.trans ?_ hread.symm
  refine exists_congr fun fields => and_congr_right fun _ => ?_
  simp

/-- Among entries that are read, those that refuse are refused when they are reduced. -/
theorem refusesEntry_iff {entry : String × Tree} {read : String × Option ServiceShape}
    (h : entry.1 = read.1 ∧ orNull service (some entry.2) = .valid read.2) :
    RefusesEntry entry fault ↔
      decide (read.1 ≠ reservedKey) = true ∧ reduceEntry read = .error fault := by
  obtain ⟨hname, hread⟩ := h
  rw [RefusesEntry, hname, decide_eq_true_eq, reduceEntry, map_eq_error_iff,
    reduceService_eq_error_iff]
  refine and_congr_right fun _ => ?_
  simp [hasShape_iff, hread]

/-- A shape is not both right and wrong. -/
theorem not_accepts_of_wrong {issues : List Issue}
    (hwrong : manifest (some tree) = .flawed issues ∨ manifest (some tree) = .mismatched issues) :
    ¬ Accepts manifest (fun _ => True) (some tree) := by
  rintro ⟨shape, hright, -⟩
  rcases hwrong with h | h
  · rw [h] at hright
    cases hright
  · rw [h] at hright
    cases hright

/-- What has a wrong shape is refused for this, whatever its fields say. -/
theorem refuses_iff_of_wrong {issues : List Issue} (hmapping : isMapping tree = true)
    (hwrong : manifest (some tree) = .flawed issues ∨ manifest (some tree) = .mismatched issues) :
    Refuses tree fault ↔ .wrongShape issues = fault := by
  constructor
  · rintro (⟨-, hnot⟩ | ⟨-, hwrong'⟩ | ⟨-, hright, -, -⟩)
    · exact absurd (hnot.symm.trans hmapping) Bool.false_ne_true
    · rcases hwrong with h | h <;> rw [h] at hwrong' <;> simpa using hwrong'
    · exact absurd hright (not_accepts_of_wrong hwrong)
  · rintro rfl
    exact .wrongShape hmapping hwrong

/-- **What should be refused is refused**, for some reason. -/
theorem exists_refuses_iff :
    (∃ fault, Refuses tree fault) ↔ IsFaulty (· ≠ reservedKey) tree := by
  constructor
  · rintro ⟨fault, ⟨hne, hnot⟩ | ⟨hmapping, hwrong⟩ | ⟨hmapping, -, hservices, hfirst⟩⟩
    · exact ⟨hne, .inl hnot⟩
    · exact ⟨ne_null_of_isMapping hmapping, .inr (.inl (not_accepts_of_wrong hwrong))⟩
    · obtain ⟨entry, hmem, fault, hlooked, shape, hshape, hfault⟩ :=
        exists_firstRefused_iff.mp ⟨fault, hfirst⟩
      exact ⟨ne_null_of_isMapping hmapping, .inr (.inr ⟨_, hservices, entry, hmem, hlooked, shape,
        hshape, exists_refusesService_iff.mp ⟨fault, hfault⟩⟩)⟩
  · rintro ⟨hne, h⟩
    cases hmapping : isMapping tree with
    | false => exact ⟨_, .notAMapping hne hmapping⟩
    | true =>
      cases hshape : manifest (some tree) with
      | flawed issues => exact ⟨_, .wrongShape hmapping (.inl hshape)⟩
      | mismatched issues => exact ⟨_, .wrongShape hmapping (.inr hshape)⟩
      | valid shape =>
        have hright : Accepts manifest (fun _ => True) (some tree) := ⟨shape, hshape, trivial⟩
        obtain ⟨services, hservices, entry, hmem, hlooked, read, hread, hrefused⟩ :=
          (h.resolve_left (by simp [hmapping])).resolve_left (not_not_intro hright)
        obtain ⟨fault, hfault⟩ := exists_refusesService_iff.mpr hrefused
        have hentry : RefusesEntry entry fault := ⟨hlooked, read, hread, hfault⟩
        obtain ⟨first, hfirst⟩ := exists_firstRefused_iff.mpr ⟨entry, hmem, fault, hentry⟩
        exact ⟨first, .service hmapping hright hservices hfirst⟩

/-- **What has the right shape is refused for its first service that is.** -/
theorem reduce_eq_error_iff {shape : ManifestShape} (h : manifest (some tree) = .valid shape) :
    reduce path shape = .error fault ↔
      ∃ services, tree.services? = some services ∧ FirstRefused RefusesEntry services fault := by
  have hread : Accepts manifest (· = shape) (some tree) := Checked.meets_eq_iff.mpr h
  rw [manifest] at hread
  obtain ⟨entries, hentries, hfields⟩ := accepts_object_iff.mp hread
  simp only [Checked.meets_seq, Checked.meets_fmap, meets_field] at hfields
  obtain ⟨kept, hkept, networks, -, volumes, -, rfl⟩ := hfields
  have hservices : tree.services? = (entries.lookup "services").bind Tree.entries? := by
    rw [Option.bind_some] at hentries
    rw [Tree.services?, Tree.child?, hentries, Option.bind_some]
  rw [hservices]
  rcases eq_none_or_of_nullish hkept with ⟨rfl, hnone | hnull⟩ | ⟨shapes, rfl, hshapes⟩
  · simp [reduce, hnone]
  · have hentries' : Tree.null.entries? = none := rfl
    simp [reduce, hnull, hentries']
  · obtain ⟨services, values, hentries', hvalues, rfl⟩ := record_eq_valid_iff.mp hshapes
    simp only [reduce, map_eq_error_iff, hentries', Option.some.injEq, exists_eq_left']
    rw [mapM_eq_error_iff fun _ _ => Iff.rfl]
    exact firstRefused_filter_iff hvalues fun _ _ hread _ => refusesEntry_iff hread

end Manifest

namespace Document

variable {path : String} {tree : Tree} {fault : ManifestFault}

/-- **A tree is refused for one reason.** -/
theorem ofTree_eq_error_iff :
    ofTree path (some tree) = .error fault ↔ Manifest.Refuses tree fault := by
  by_cases hnull : tree = .null
  · subst hnull
    refine iff_of_false (fun h => ?_) ?_
    · cases h
    · rintro (⟨hne, -⟩ | ⟨hmapping, -⟩ | ⟨hmapping, -⟩)
      · exact hne rfl
      · cases hmapping
      · cases hmapping
  rw [ofTree]
  · cases hmapping : Manifest.isMapping tree
    · rw [if_neg Bool.false_ne_true, Except.error.injEq]
      constructor
      · rintro rfl
        exact .notAMapping hnull hmapping
      · rintro (_ | ⟨htrue, -⟩ | ⟨htrue, -⟩)
        · rfl
        · exact absurd (hmapping.symm.trans htrue) Bool.false_ne_true
        · exact absurd (hmapping.symm.trans htrue) Bool.false_ne_true
    · rw [if_pos rfl]
      cases hshape : Manifest.manifest (some tree) with
      | valid shape =>
        have hright : Accepts Manifest.manifest (fun _ => True) (some tree) :=
          ⟨shape, hshape, trivial⟩
        rw [Manifest.reduce_eq_error_iff hshape]
        constructor
        · rintro ⟨services, hservices, hfirst⟩
          exact .service hmapping hright hservices hfirst
        · rintro (⟨-, hnot⟩ | ⟨-, hwrong⟩ | ⟨-, -, hservices, hfirst⟩)
          · exact absurd (hnot.symm.trans hmapping) Bool.false_ne_true
          · exact absurd hright (Manifest.not_accepts_of_wrong hwrong)
          · exact ⟨_, hservices, hfirst⟩
      | flawed issues =>
        rw [Except.error.injEq, Manifest.refuses_iff_of_wrong hmapping (.inl hshape)]
      | mismatched issues =>
        rw [Except.error.injEq, Manifest.refuses_iff_of_wrong hmapping (.inr hshape)]
  · exact hnull

/-- What is said of a field behind the name of its service. -/
def fieldFaults : List String :=
  ["' has an unknown restart policy: ", "' has an invalid volume: ", "' has an invalid port: "]

/-- Whether a fault is reported as one of a field of a service. -/
def Names (path name : String) (fault : ManifestFault) : Prop :=
  ∃ said ∈ fieldFaults, ∃ written,
    fault.cause path = .parse ("Service '" ++ name ++ said ++ written) none none

/-- **A fault of a service names it**, unless a port stands inside itself. -/
theorem names_of_refusesEntry {entry : String × Tree} (h : Manifest.RefusesEntry entry fault) :
    Names path entry.1 fault ∨ ∃ circle, fault = .circularPort circle := by
  obtain ⟨-, shape, -, hrestart | ⟨-, hvolume⟩ | ⟨-, -, hport⟩⟩ := h
  · generalize shape.restart = written at hrestart
    cases hrestart
    exact .inl ⟨_, .head _, _, rfl⟩
  · obtain ⟨volume, -, hvolume⟩ := hvolume.exists_mem
    cases hvolume
    exact .inl ⟨_, .tail _ (.head _), _, rfl⟩
  · obtain ⟨port, -, hport⟩ := hport.exists_mem
    cases hport with
    | short | long => exact .inl ⟨_, .tail _ (.tail _ (.head _)), _, rfl⟩
    | circular => exact .inr ⟨_, rfl⟩

/-- How a tree is judged: whether it is refused and for what, and what is read of it otherwise. -/
structure Judges (path : String) (found : Option Tree) : Prop where
  refused : (∃ fault, ofTree path found = .error fault) ↔
    ∃ tree, found = some tree ∧ Manifest.IsFaulty (· ≠ reservedKey) tree
  /-- The reason is the first one. -/
  reason : ∀ fault, ofTree path found = .error fault ↔
    ∃ tree, found = some tree ∧ Manifest.Refuses tree fault
  /-- A field is the reason only if the shape is right, and then it is one of the first service that
  is refused, which is named. -/
  first : ∀ tree services fault, found = some tree →
    Accepts Manifest.manifest (fun _ => True) (some tree) → tree.services? = some services →
      ofTree path found = .error fault →
        ∃ before entry after, services = before ++ entry :: after ∧
          (∀ earlier ∈ before, ∀ fault, ¬ Manifest.RefusesEntry earlier fault) ∧
          Manifest.RefusesEntry entry fault ∧
          (Names path entry.1 fault ∨ ∃ circle, fault = .circularPort circle)
  /-- It is reported as a fault of the manifest, unless a port stands inside itself. -/
  reported : ∀ fault, ofTree path found = .error fault →
    ((∃ message file, fault.cause path = .parse message file none) ↔
      ∀ circle, fault ≠ .circularPort circle)
  /-- No service is left out of what is read, but for the reserved key. -/
  complete : ∀ tree document services, found = some tree → ofTree path found = .ok document →
    tree.services? = some services →
      document.services.names = (services.map Prod.fst).filter (· ≠ reservedKey) ∧
      ∀ name service, (name, service) ∈ document.services.entries ↔
        name ≠ reservedKey ∧ ∃ child, (name, child) ∈ services ∧
          Manifest.ReadsAs name child service

/-- **Trees are judged as a whole.** -/
theorem judges (path : String) (found : Option Tree) : Judges path found where
  refused := by
    cases found with
    | none =>
      refine iff_of_false ?_ ?_
      · rintro ⟨_, h⟩
        cases h
      · rintro ⟨_, hnone, -⟩
        cases hnone
    | some tree => simp [ofTree_eq_error_iff, Manifest.exists_refuses_iff]
  reason := by
    intro fault
    cases found with
    | none =>
      refine iff_of_false (fun h => ?_) ?_
      · cases h
      · rintro ⟨_, hnone, -⟩
        cases hnone
    | some tree => simp [ofTree_eq_error_iff]
  first := by
    rintro tree services fault rfl hright hservices h
    rcases ofTree_eq_error_iff.mp h with ⟨-, hnot⟩ | ⟨-, hwrong⟩ | ⟨-, -, hall, hfirst⟩
    · obtain ⟨_, hchild, -⟩ := Option.bind_eq_some_iff.mp hservices
      obtain ⟨entries, hentries, -⟩ := Option.bind_eq_some_iff.mp hchild
      have hmapping := Manifest.isMapping_of_entries? hentries
      exact absurd (hnot.symm.trans hmapping) Bool.false_ne_true
    · exact absurd hright (Manifest.not_accepts_of_wrong hwrong)
    · obtain rfl := Option.some.inj (hservices.symm.trans hall)
      obtain ⟨before, entry, after, rfl, hbefore, hentry⟩ := firstRefused_iff.mp hfirst
      exact ⟨before, entry, after, rfl, hbefore, hentry, names_of_refusesEntry hentry⟩
  reported := by
    intro fault h
    cases fault with
    | circularPort circle => simp [ManifestFault.cause]
    | _ => exact iff_of_true ⟨_, _, rfl⟩ (by simp)
  complete := by
    rintro tree document services rfl hread hservices
    have hmapping : tree.hasMapping "services" = true := Option.isSome_of_eq_some hservices
    have hnames := (names_ofTree hread hmapping).1.1
    rw [Tree.keysUnder_services hservices] at hnames
    exact ⟨hnames, (readFrom_of_ofTree hservices hread).2.mem_services_iff⟩

/-- A service under the reserved key, with a volume that is none. -/
def reservedFault : Tree :=
  .mapping [("services", .mapping [("__proto__",
    .mapping [("volumes", .list [.text "a:b:c:d"])])])]

/-- A port that stands inside itself, with nothing else wrong. -/
def ringedPort : Tree :=
  .mapping [("services", .mapping [("web", .mapping [("ports",
    .list [.ring 0 (.mapping [("target", .nat 80), ("x", .again 0)])])])])]

/-- Under the reserved key a fault is passed over, and a port that stands inside itself is reported
as something else. -/
theorem not_forall_judged :
    (¬ ∀ (path : String) (tree : Tree), (∃ fault, ofTree path (some tree) = .error fault) ↔
      Manifest.IsFaulty (fun _ => True) tree) ∧
    ¬ ∀ (path : String) (tree : Tree) (fault : ManifestFault),
      ofTree path (some tree) = .error fault →
        ∃ message file, fault.cause path = .parse message file none := by
  constructor
  · intro h
    have hfaulty : Manifest.IsFaulty (fun _ => True) reservedFault := by
      refine ⟨fun hnull => ?_, .inr (.inr ⟨_, rfl, _, .head _, trivial, ?_⟩)⟩
      · cases hnull
      exact ⟨{ volumes := [.short "a:b:c:d"] }, Manifest.hasShape_iff.mpr ⟨_, rfl, rfl⟩,
        .inr (.inl ⟨_, .head _, _, .short rfl⟩)⟩
    obtain ⟨fault, hfault⟩ := (h "compose.yml" reservedFault).mpr hfaulty
    have hread : ofTree "compose.yml" (some reservedFault) = .ok _ := rfl
    cases hread.symm.trans hfault
  · intro h
    obtain ⟨message, file, hcause⟩ := h "compose.yml" ringedPort _ rfl
    cases hcause

end Document

end ComposeLint
