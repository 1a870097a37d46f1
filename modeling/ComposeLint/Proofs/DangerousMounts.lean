import ComposeLint.Proofs.Canonical
import ComposeLint.Proofs.Closed
import ComposeLint.Proofs.ServiceItems
import ComposeLint.Proofs.Volume
import Mathlib.Data.List.DropRight

/-!
# Dangerous mounts as they are written

What the rules on host paths find in a service follows from the sources of its volumes, entry by
entry. A source names a sensitive path if it is that path with slashes behind it
(`SensitiveMount.Names`), and each volume whose source names one is found, in either form
(`VolumeShape.yields_of_mount`). Slashes behind a path never matter
(`Rule.withoutTrailingSlashes_append`), so more of them neither hide a bind mount from these rules
nor show one to them (`Rule.JudgesMounts.eq_nil_iff`).
-/

namespace ComposeLint

open Substitution

/-! ## Slashes behind a path -/

/-- Nothing but slashes. -/
def slashes (count : Nat) : String := String.ofList (List.replicate count '/')

/-- Whether a source is the path, with any number of slashes behind it. -/
def SensitiveMount.Names (mount : SensitiveMount) (source : String) : Prop :=
  ∃ count, source = mount.path ++ slashes count

/-- An absolute path without a slash at its end. -/
structure IsPlainPath (path : String) : Prop where
  head : path.toList.head? = some '/'
  last : path.toList.getLast? ≠ some '/'

section Slashes

variable {path source : String}

@[simp]
theorem toList_slashes (count : Nat) : (slashes count).toList = List.replicate count '/' :=
  String.toList_ofList

-- There is only one number of slashes that can stand behind the path.
instance (mount : SensitiveMount) (source : String) : Decidable (mount.Names source) :=
  decidable_of_iff (source = mount.path ++ slashes (source.length - mount.path.length)) <| by
    constructor
    · exact fun h => ⟨_, h⟩
    · rintro ⟨count, rfl⟩
      simp [slashes]

namespace Rule

theorem withoutTrailingSlashes_eq (path : String) : withoutTrailingSlashes path =
    if (path.toList.rdropWhile (· == '/')).isEmpty && path.toList.head? == some '/' then "/"
    else String.ofList (path.toList.rdropWhile (· == '/')) :=
  rfl

theorem rdropWhile_append_slashes (cs : List Char) (count : Nat) :
    (cs ++ List.replicate count '/').rdropWhile (· == '/') = cs.rdropWhile (· == '/') := by
  induction count with
  | zero => rw [List.replicate_zero, List.append_nil]
  | succ count ih =>
    rw [List.replicate_succ', ← List.append_assoc, List.rdropWhile_concat_pos _ _ _ (by decide), ih]

/-- **Slashes behind a path do not matter.** -/
theorem withoutTrailingSlashes_append (h : path ≠ "") (count : Nat) :
    withoutTrailingSlashes (path ++ slashes count) = withoutTrailingSlashes path := by
  rw [withoutTrailingSlashes_eq, withoutTrailingSlashes_eq, String.toList_append, toList_slashes,
    rdropWhile_append_slashes, List.head?_append_of_ne_nil _ (by simpa using h)]

/-- A source is what is left of it and the slashes at its end. -/
theorem exists_append_slashes (source : String) : ∃ count,
    source = String.ofList (source.toList.rdropWhile (· == '/')) ++ slashes count := by
  obtain ⟨count, htail⟩ : ∃ count,
      source.toList.rtakeWhile (· == '/') = List.replicate count '/' :=
    ⟨_, List.eq_replicate_iff.mpr ⟨rfl, fun c hc =>
      eq_of_beq (List.mem_rtakeWhile_imp (p := (· == '/')) hc)⟩⟩
  refine ⟨count, String.toList_inj.mp ?_⟩
  rw [String.toList_append, String.toList_ofList, toList_slashes, ← htail,
    List.rdropWhile_append_rtakeWhile]

/-- A path without a slash at its end stays as it is. -/
theorem withoutTrailingSlashes_eq_self (hne : path ≠ "") (hlast : path.toList.getLast? ≠ some '/') :
    withoutTrailingSlashes path = path := by
  have hself : path.toList.rdropWhile (· == '/') = path.toList := by
    rw [List.rdropWhile_eq_self_iff]
    intro hnil hslash
    exact hlast (by rw [List.getLast?_eq_some_getLast hnil, eq_of_beq hslash])
  have hempty : path.toList.isEmpty = false := by simpa using hne
  rw [withoutTrailingSlashes_eq, hself, hempty, Bool.false_and, if_neg Bool.false_ne_true,
    String.ofList_toList]

/-- **What is left of a source is a path** exactly when the source is that path with slashes behind
it. -/
theorem withoutTrailingSlashes_eq_iff (h : IsPlainPath path) :
    withoutTrailingSlashes source = path ↔ ∃ count, source = path ++ slashes count := by
  have hne : path ≠ "" := by
    rintro rfl
    cases h.head
  constructor
  · rw [withoutTrailingSlashes_eq]
    split
    · rintro rfl
      exact absurd rfl h.last
    · rintro rfl
      exact exists_append_slashes source
  · rintro ⟨count, rfl⟩
    rw [withoutTrailingSlashes_append hne, withoutTrailingSlashes_eq_self hne h.last]

end Rule

/-- **A path of the host** begins with a slash, or with a dot and a slash. -/
theorem MountKind.of_eq_bindMount_iff : MountKind.of source = .bindMount ↔
    "/".toList <+: source.toList ∨ "./".toList <+: source.toList := by
  -- A text that begins so does not begin with a dollar.
  have hdollar : "/".toList <+: source.toList ∨ "./".toList <+: source.toList →
      source.toList.head? ≠ some '$' := by
    rintro (⟨rest, hrest⟩ | ⟨rest, hrest⟩) <;> simp [← hrest]
  rw [← List.isPrefixOf_iff_prefix, ← List.isPrefixOf_iff_prefix, ← Bool.or_eq_true] at *
  rw [MountKind.of]
  cases hprefix : ("/".toList.isPrefixOf source.toList || "./".toList.isPrefixOf source.toList) with
  | false => split <;> simp
  | true => simp [hdollar hprefix]

theorem MountKind.ne_empty_of_bindMount (h : MountKind.of source = .bindMount) : source ≠ "" := by
  rintro rfl
  cases h

/-- A path of the host stays one with slashes behind it. -/
theorem MountKind.of_append_slashes (h : MountKind.of source = .bindMount) (count : Nat) :
    MountKind.of (source ++ slashes count) = .bindMount := by
  have happend : source.toList <+: (source ++ slashes count).toList := by simp
  rw [of_eq_bindMount_iff] at h ⊢
  exact h.imp (·.trans happend) (·.trans happend)

/-- A segment stays one with slashes behind it. -/
theorem IsSegment.append_slashes (h : IsSegment source) (count : Nat) :
    IsSegment (source ++ slashes count) := by
  cases count with
  | zero => simpa [slashes] using h
  | succ count =>
    have hplain : '$' ∉ List.replicate count '/' := by simp [List.mem_replicate]
    have hcolon : ':' ∉ List.replicate count '/' := by simp [List.mem_replicate]
    constructor <;> rw [String.toList_append, toList_slashes, List.replicate_succ]
    · exact (closed_append_cons_iff divides_slash h.closed).mpr (closed_plain hplain)
    · exact (uncut_append_cons_iff divides_slash h.closed (by decide)).mpr
        ⟨h.uncut, uncut_plain hplain hcolon⟩

end Slashes

/-! ## Sources -/

namespace VolumeShape

variable {shape longer : VolumeShape} {name : String} {mount : Mount}

/-- The source that is written: in the short form the first of several segments. -/
def source? : VolumeShape → Option String
  | .short written =>
    match split ':' written.toList with
    | source :: _ :: _ => some (String.ofList source)
    | _ => none
  | .long source _ _ => source

/-- Whether a volume is written like another, perhaps with slashes behind the source of a bind
mount. -/
inductive AddsSlashes : VolumeShape → VolumeShape → Prop
  /-- The volume is the same. -/
  | same (shape : VolumeShape) : AddsSlashes shape shape
  /-- The slashes stand before the first colon. -/
  | short {source : String} (rest : String) (count : Nat) : IsSegment source →
      MountKind.of source = .bindMount →
        AddsSlashes (.short (source ++ ":" ++ rest))
          (.short (source ++ slashes count ++ ":" ++ rest))
  /-- The slashes stand at the end of the field. -/
  | long {source : String} (target : String) (readOnly : Bool) (count : Nat) :
      MountKind.of source = .bindMount →
        AddsSlashes (.long (some source) target readOnly)
          (.long (some (source ++ slashes count)) target readOnly)

theorem source?_short {source : String} (h : IsSegment source) (rest : String) :
    source? (.short (source ++ ":" ++ rest)) = some source := by
  rw [source?, split_segment_append h]
  obtain ⟨first, others, hsplit⟩ := List.exists_cons_of_ne_nil (split_ne_nil ':' rest.toList)
  rw [hsplit]
  exact congrArg some String.ofList_toList

/-- **The source of a mount** is the one that is written, and empty if none is. -/
theorem source_of_mount (h : Manifest.mount name shape = .ok mount) :
    mount.source = shape.source?.getD "" := by
  cases shape with
  | short written =>
    have hparts := Manifest.orFault_eq_ok_iff.mp h
    rw [Mount.parse?] at hparts
    rw [source?]
    unfold Mount.ofParts? at hparts
    split at hparts
    · next target hsplit =>
      cases hparts
      rw [hsplit]
      rfl
    · next source target hsplit =>
      split at hparts <;> cases hparts
      rw [hsplit]
      rfl
    · next source target flags hsplit =>
      split at hparts <;> cases hparts
      rw [hsplit]
      rfl
    · cases hparts
  | long source target readOnly =>
    cases h
    rfl

theorem source?_of_ne (h : Manifest.mount name shape = .ok mount) (hne : mount.source ≠ "") :
    shape.source? = some mount.source := by
  have hsource := source_of_mount h
  cases hwritten : shape.source? with
  | some source => rw [hsource, hwritten, Option.getD_some]
  | none => exact absurd (by rw [hsource, hwritten, Option.getD_none]) hne

/-- **The source of a short form** is closed, and what is left of the form stands behind a colon. -/
theorem exists_of_source?_short {written source : String}
    (h : source? (.short written) = some source) :
    ∃ rest, written = source ++ ":" ++ rest ∧ IsSegment source := by
  rw [source?] at h
  cases hcut : cutFirst? ':' written.toList with
  | none =>
    rw [split_of_uncut (cutFirst?_eq_none_iff.mp hcut)] at h
    cases h
  | some cut =>
    obtain ⟨hwritten, hclosed, huncut⟩ := (cutFirst?_eq_some_iff divides_colon).mp hcut
    obtain ⟨first, others, hsplit⟩ := List.exists_cons_of_ne_nil (split_ne_nil ':' cut.2)
    rw [hwritten, split_append_colon hclosed huncut, hsplit] at h
    obtain rfl := Option.some.inj h
    refine ⟨String.ofList cut.2, ?_, ?_, ?_⟩
    · rw [← String.toList_inj]
      simpa using hwritten
    · rwa [String.toList_ofList]
    · rwa [String.toList_ofList]

end VolumeShape

/-- The mount with another source, of the kind that this one has. -/
def Mount.withSource (mount : Mount) (source : String) : Mount :=
  .ofParts source mount.target mount.mode

/-- Of several segments the first is the source, and says nothing about the others. -/
theorem Mount.ofParts?_cons {parts : List (List Char)} (h : parts ≠ []) (source other : List Char) :
    ofParts? (other :: parts) =
      (ofParts? (source :: parts)).map (·.withSource (String.ofList other)) := by
  match parts with
  | [target] => rw [ofParts?, ofParts?]; split <;> rfl
  | [target, flags] => rw [ofParts?, ofParts?]; split <;> rfl
  | _ :: _ :: _ :: _ => rfl

namespace VolumeShape

variable {shape longer : VolumeShape} {name : String} {mount : Mount}

/-- Another segment before the first colon is another source. -/
theorem mount_of_segment {source other rest : String} (hsource : IsSegment source)
    (hother : IsSegment other)
    (h : Manifest.mount name (.short (source ++ ":" ++ rest)) = .ok mount) :
    Manifest.mount name (.short (other ++ ":" ++ rest)) = .ok (mount.withSource other) := by
  have hparts := Manifest.orFault_eq_ok_iff.mp h
  rw [Mount.parse?, split_segment_append hsource] at hparts
  refine Manifest.orFault_eq_ok_iff.mpr ?_
  rw [Mount.parse?, split_segment_append hother,
    Mount.ofParts?_cons (split_ne_nil ':' rest.toList) source.toList, hparts, Option.map_some,
    String.ofList_toList]

/-- **Slashes can stand behind the source of any bind mount**, and then they stand behind the source
that is read. -/
theorem exists_addsSlashes (h : Manifest.mount name shape = .ok mount)
    (hbind : mount.kind = .bindMount) (count : Nat) :
    ∃ longer, shape.AddsSlashes longer ∧
      Manifest.mount name longer = .ok (mount.withSource (mount.source ++ slashes count)) := by
  rw [Manifest.kind_of_mount h] at hbind
  have hsource := source?_of_ne h (MountKind.ne_empty_of_bindMount hbind)
  cases shape with
  | short written =>
    obtain ⟨rest, rfl, hsegment⟩ := exists_of_source?_short hsource
    exact ⟨_, .short rest count hsegment hbind,
      mount_of_segment hsegment (hsegment.append_slashes count) h⟩
  | long source target readOnly =>
    cases source with
    | none => cases hsource
    | some source =>
      cases h
      exact ⟨_, .long target readOnly count hbind, rfl⟩

/-- Rules on host paths see no difference. -/
theorem alike_withSource (h : Manifest.mount name shape = .ok mount)
    (hbind : MountKind.of mount.source = .bindMount) (count : Nat) :
    (mount.withSource (mount.source ++ slashes count)).kind = mount.kind ∧
      Rule.withoutTrailingSlashes (mount.withSource (mount.source ++ slashes count)).source =
        Rule.withoutTrailingSlashes mount.source := by
  rw [Manifest.kind_of_mount h, hbind]
  exact ⟨MountKind.of_append_slashes hbind count,
    Rule.withoutTrailingSlashes_append (MountKind.ne_empty_of_bindMount hbind) count⟩

/-- **A volume is accepted with slashes behind its source**, and rules on host paths see no
difference. -/
theorem AddsSlashes.exists_mount (hadds : shape.AddsSlashes longer)
    (h : Manifest.mount name shape = .ok mount) :
    ∃ other, Manifest.mount name longer = .ok other ∧ other.kind = mount.kind ∧
      Rule.withoutTrailingSlashes other.source = Rule.withoutTrailingSlashes mount.source := by
  cases hadds with
  | same => exact ⟨mount, h, rfl, rfl⟩
  | short rest count hsegment hbind =>
    have hsource := source_of_mount h
    rw [source?_short hsegment] at hsource
    obtain rfl := hsource
    exact ⟨_, mount_of_segment hsegment (hsegment.append_slashes count) h,
      alike_withSource h hbind count⟩
  | long target readOnly count hbind =>
    obtain rfl := Except.ok.inj h
    exact ⟨_, rfl, alike_withSource h hbind count⟩

end VolumeShape

/-- What a volume is read as does not depend on the service. -/
theorem Manifest.mount_of_name {name : String} {shape : VolumeShape} {read : Mount}
    (other : String) (h : mount name shape = .ok read) : mount other shape = .ok read := by
  cases shape with
  | short written => exact orFault_eq_ok_iff.mpr (orFault_eq_ok_iff.mp h)
  | long source target readOnly => exact h

/-! ## What is found -/

namespace Rule

/-- What the rule on dangerous mounts finds in a source without the slashes at its end. -/
def sensitiveHits (tables : RuleTables) (service : Service) (source : String) : List Hit :=
  match tables.sensitiveMounts.find? (·.path == source) with
  | some entry => [⟨entry.severity, about service ("mounts dangerous path: " ++ entry.path)⟩]
  | none => []

/-- What is found in a service with one volume. -/
theorem bindMountHits_singleton (service : Service) (mount : Mount)
    (check : Mount → String → List Hit) :
    bindMountHits { service with volumeMounts := [mount] } check =
      if mount.kind = .bindMount then check mount (withoutTrailingSlashes mount.source)
      else [] := by
  simp [bindMountHits]

end Rule

namespace VolumeShape

variable {shape : VolumeShape} {mounts : List SensitiveMount} {name : String} {mount : Mount}
  {service : Service} {tables : RuleTables}

/-- Whether the source of a volume names a sensitive path. -/
def IsDangerous (mounts : List SensitiveMount) (shape : VolumeShape) : Prop :=
  ∃ source ∈ shape.source?, ∃ mount ∈ mounts, mount.Names source

instance : DecidablePred (IsDangerous mounts) := fun shape =>
  match hsource : shape.source? with
  | none => isFalse (by simp [IsDangerous, hsource])
  | some source =>
    decidable_of_iff (∃ mount ∈ mounts, mount.Names source) (by simp [IsDangerous, hsource])

/-- What is found in a volume: a hit on the sensitive path that its source names. -/
inductive Yields (mounts : List SensitiveMount) (service : Service) : VolumeShape → List Hit → Prop
  /-- The hit has the severity of the table, and names the path of the table. -/
  | dangerous {shape : VolumeShape} {source : String} {mount : SensitiveMount} :
      shape.source? = some source → mount ∈ mounts → mount.Names source →
        Yields mounts service shape
          [⟨mount.severity, Rule.about service ("mounts dangerous path: " ++ mount.path)⟩]
  /-- Nothing is found without such a path. -/
  | harmless {shape : VolumeShape} : ¬ shape.IsDangerous mounts → Yields mounts service shape []

theorem Yields.length_eq {hits : List Hit} (h : Yields mounts service shape hits) :
    hits.length = if shape.IsDangerous mounts then 1 else 0 := by
  cases h with
  | dangerous hsource hmem hnames => rw [if_pos ⟨_, hsource, _, hmem, hnames⟩]; rfl
  | harmless hnot => rw [if_neg hnot]; rfl

/-- A mount whose source names a path of the host is a bind mount, and its source is written. -/
theorem source?_of_names {entry : SensitiveMount} (hplain : IsPlainPath entry.path)
    (h : Manifest.mount name shape = .ok mount) (hnames : entry.Names mount.source) :
    shape.source? = some mount.source ∧ mount.kind = .bindMount := by
  obtain ⟨rest, hpath⟩ := List.head?_eq_some_iff.mp hplain.head
  obtain ⟨count, hcount⟩ := hnames
  have hprefix : "/".toList <+: mount.source.toList := by
    rw [hcount, String.toList_append, hpath]
    exact ⟨rest ++ (slashes count).toList, rfl⟩
  have hbind : MountKind.of mount.source = .bindMount :=
    MountKind.of_eq_bindMount_iff.mpr (.inl hprefix)
  exact ⟨source?_of_ne h (MountKind.ne_empty_of_bindMount hbind),
    (Manifest.kind_of_mount h).trans hbind⟩

/-- **What is found in one volume** by the rule on dangerous mounts. -/
theorem yields_of_mount (hplain : ∀ entry ∈ tables.sensitiveMounts, IsPlainPath entry.path)
    (h : Manifest.mount name shape = .ok mount) :
    shape.Yields tables.sensitiveMounts service
      (Rule.bindMountHits { service with volumeMounts := [mount] }
        fun _ => Rule.sensitiveHits tables service) := by
  rw [Rule.bindMountHits_singleton, Rule.sensitiveHits]
  cases hfind :
    tables.sensitiveMounts.find? (·.path == Rule.withoutTrailingSlashes mount.source) with
  | some entry =>
    have hmem := List.mem_of_find?_eq_some hfind
    have hpath := List.find?_some hfind
    have hnames : entry.Names mount.source :=
      (Rule.withoutTrailingSlashes_eq_iff (hplain entry hmem)).mp (eq_of_beq hpath).symm
    obtain ⟨hsource, hbind⟩ := source?_of_names (hplain entry hmem) h hnames
    rw [if_pos hbind]
    exact .dangerous hsource hmem hnames
  | none =>
    rw [ite_self]
    refine .harmless ?_
    rintro ⟨source, hsource, entry, hmem, hnames⟩
    have heq : mount.source = source := by rw [source_of_mount h, hsource, Option.getD_some]
    have hpath := (Rule.withoutTrailingSlashes_eq_iff (hplain entry hmem)).mpr hnames
    exact List.find?_eq_none.mp hfind entry hmem (by rw [heq, hpath, beq_self_eq_true])

/-- There are as many hits as dangerous volumes. -/
theorem length_flatten_of_yields {shapes : List VolumeShape} {blocks : List (List Hit)}
    (h : List.Forall₂ (Yields mounts service) shapes blocks) :
    blocks.flatten.length = shapes.countP (IsDangerous mounts) := by
  induction h with
  | nil => rfl
  | cons hyields _ ih =>
    rw [List.flatten_cons, List.length_append, hyields.length_eq, ih, List.countP_cons,
      Nat.add_comm]
    simp only [decide_eq_true_eq]

end VolumeShape

namespace Rule

variable {rule : Rule} {context : RuleContext} {tables : RuleTables} {service other : Service}
  {check : RuleTables → Service → Mount → String → List Hit} {shapes : List VolumeShape}
  {tree : Tree}

/-- A rule on host paths judges the bind mounts of a service one by one, and reports a mount or not
by its source without the slashes at its end. -/
structure JudgesMounts (rule : Rule) (check : RuleTables → Service → Mount → String → List Hit) :
    Prop where
  hits : ∀ context service, rule.hits? context service =
    some (bindMountHits service (check context.tables service))
  alone : ∀ tables service mounts,
    check tables { service with volumeMounts := mounts } = check tables service
  source : ∀ tables service other mount mount' source,
    check tables service mount source = [] ↔ check tables other mount' source = []

theorem judgesMounts_dangerousMounts :
    dangerousMounts.JudgesMounts fun tables service _ => sensitiveHits tables service where
  hits _ _ := rfl
  alone _ _ _ := rfl
  source tables service other mount mount' source := by
    simp only [sensitiveHits]
    split <;> simp

theorem judgesMounts_broadFilesystemMounts :
    broadFilesystemMounts.JudgesMounts fun tables service mount source =>
      hitIf (isBroad tables source) .high
        (about service ("has broad filesystem access: " ++ mount.source)) where
  hits _ _ := rfl
  alone _ _ _ := rfl
  source tables service other mount mount' source := by
    simp only [hitIf]
    split <;> simp

/-- What a rule finds in a service, volume by volume in the order of the list: in each volume it
finds what it would find if that were the only one. -/
structure FindsMounted (rule : Rule) (context : RuleContext) (tree : Tree) (service : Service)
    (shapes : List VolumeShape) (blocks : List (List Hit)) : Prop where
  listed : Manifest.Lists Manifest.volume "volumes" tree shapes
  each : List.Forall₂ (fun shape block => ∃ mount, Manifest.mount service.name shape = .ok mount ∧
    rule.hits? context { service with volumeMounts := [mount] } = some block) shapes blocks
  hits : rule.hits? context service = some blocks.flatten

theorem JudgesMounts.findsMounted (hrule : rule.JudgesMounts check)
    (hlisted : Manifest.Lists Manifest.volume "volumes" tree shapes)
    (hmounts : List.Forall₂ (fun shape read => Manifest.mount service.name shape = .ok read) shapes
      service.volumeMounts) :
    FindsMounted rule context tree service shapes (service.volumeMounts.map fun mount =>
      bindMountHits { service with volumeMounts := [mount] } (check context.tables service)) where
  listed := hlisted
  each := by
    rw [List.forall₂_map_right_iff]
    exact hmounts.imp fun shape mount h => ⟨mount, h, by rw [hrule.hits, hrule.alone]⟩
  hits := by
    rw [hrule.hits, ← List.flatMap_def]
    simp only [bindMountHits_singleton]
    rfl

/-- **Whether a volume is reported** does not depend on slashes behind its source. -/
theorem JudgesMounts.eq_nil_iff (hrule : rule.JudgesMounts check) {shape longer : VolumeShape}
    {document document' : Document} {block block' : List Hit} (hadds : shape.AddsSlashes longer)
    (h : ∃ mount, Manifest.mount service.name shape = .ok mount ∧
      rule.hits? ⟨document, tables⟩ { service with volumeMounts := [mount] } = some block)
    (hlonger : ∃ mount, Manifest.mount other.name longer = .ok mount ∧
      rule.hits? ⟨document', tables⟩ { other with volumeMounts := [mount] } = some block') :
    block = [] ↔ block' = [] := by
  obtain ⟨mount, hmount, hblock⟩ := h
  obtain ⟨mount', hmount', hblock'⟩ := hlonger
  obtain ⟨_, hread, hkind, hsource⟩ := hadds.exists_mount hmount
  obtain rfl := Except.ok.inj (hmount'.symm.trans (Manifest.mount_of_name other.name hread))
  rw [hrule.hits, hrule.alone, bindMountHits_singleton] at hblock hblock'
  rw [← Option.some.inj hblock, ← Option.some.inj hblock', hkind, hsource]
  split
  · exact hrule.source ..
  · rfl

/-- Rules on host paths. -/
def onHostPaths : List Rule := [dangerousMounts, broadFilesystemMounts]

theorem exists_judgesMounts (h : rule ∈ onHostPaths) : ∃ check, rule.JudgesMounts check := by
  obtain rfl | h := List.mem_cons.mp h
  · exact ⟨_, judgesMounts_dangerousMounts⟩
  · obtain rfl := List.mem_singleton.mp h
    exact ⟨_, judgesMounts_broadFilesystemMounts⟩

/-- The paths of the standard tables are absolute, and no slash stands at their ends. -/
theorem isPlainPath_of_mem_standard :
    ∀ entry ∈ RuleTables.standard.sensitiveMounts, IsPlainPath entry.path := by
  have hpaths : ∀ entry ∈ RuleTables.standard.sensitiveMounts,
      entry.path.toList.head? = some '/' ∧ entry.path.toList.getLast? ≠ some '/' := by
    decide +kernel
  exact fun entry hentry => ⟨(hpaths entry hentry).1, (hpaths entry hentry).2⟩

/-- **Mounts are found as they are written.** The rules on host paths judge a service volume by
volume. The one on dangerous mounts has one hit on a volume if its source is a sensitive path, with
any number of slashes behind it, and none if not. A bind mount with slashes behind its source is
accepted just as well, and neither rule reports it more or less than without them. -/
theorem findsMounted_of_readsAs :
    (∀ rule ∈ onHostPaths, ∀ {context : RuleContext} {name : String} {tree : Tree}
      {service : Service}, Manifest.ReadsAs name tree service →
        ∃ shapes blocks, FindsMounted rule context tree service shapes blocks) ∧
    (∀ {document : Document} {tree : Tree} {service : Service} {shapes : List VolumeShape}
      {blocks : List (List Hit)},
      FindsMounted dangerousMounts ⟨document, .standard⟩ tree service shapes blocks →
        List.Forall₂ (VolumeShape.Yields RuleTables.standard.sensitiveMounts service)
          shapes blocks ∧
        blocks.flatten.length =
          shapes.countP (VolumeShape.IsDangerous RuleTables.standard.sensitiveMounts)) ∧
    (∀ {name : String} {shape : VolumeShape} {mount : Mount},
      Manifest.mount name shape = .ok mount →
      (∀ longer, shape.AddsSlashes longer → ∃ other, Manifest.mount name longer = .ok other) ∧
      (mount.kind = .bindMount → ∀ count, ∃ longer, shape.AddsSlashes longer ∧
        Manifest.mount name longer = .ok (mount.withSource (mount.source ++ slashes count)))) ∧
    ∀ rule ∈ onHostPaths, ∀ {document document' : Document} {tables : RuleTables}
      {tree tree' : Tree} {service service' : Service} {shapes longer : List VolumeShape}
      {blocks others : List (List Hit)},
      FindsMounted rule ⟨document, tables⟩ tree service shapes blocks →
        FindsMounted rule ⟨document', tables⟩ tree' service' longer others →
          List.Forall₂ VolumeShape.AddsSlashes shapes longer →
            List.Forall₂ (fun block block' => block = [] ↔ block' = []) blocks others := by
  refine ⟨fun rule hrule context name tree service hread => ?_,
    fun {document tree service shapes blocks} hfinds => ?_,
    fun h => ⟨fun longer hadds => ?_, VolumeShape.exists_addsSlashes h⟩,
    fun rule hrule document document' tables tree tree' service service' shapes longer blocks others
      hfinds hlonger hadds => ?_⟩
  · obtain ⟨check, hjudges⟩ := exists_judgesMounts hrule
    obtain ⟨shapes, hlisted, hmounts, rfl⟩ := Manifest.volumes_of_readsAs hread
    exact ⟨shapes, _, hjudges.findsMounted hlisted hmounts⟩
  · have hyields : List.Forall₂ (VolumeShape.Yields RuleTables.standard.sensitiveMounts service)
        shapes blocks := by
      refine hfinds.each.imp fun shape block ⟨mount, hmount, hblock⟩ => ?_
      rw [judgesMounts_dangerousMounts.hits] at hblock
      rw [← Option.some.inj hblock]
      exact VolumeShape.yields_of_mount isPlainPath_of_mem_standard hmount
    exact ⟨hyields, VolumeShape.length_flatten_of_yields hyields⟩
  · obtain ⟨other, hother, -⟩ := hadds.exists_mount h
    exact ⟨other, hother⟩
  · obtain ⟨check, hjudges⟩ := exists_judgesMounts hrule
    exact forall₂_found hadds hfinds.each hlonger.each hjudges.eq_nil_iff

/-- A service with volumes, as a tree. -/
def mounting (volumes : List Tree) : Tree := .mapping [("volumes", .list volumes)]

/-- A service with volumes. -/
def mounter (volumeMounts : List Mount) : Service := { name := "web", volumeMounts }

/-- Volumes in both forms, of which two are sensitive paths. -/
def mixedVolumes : Tree :=
  mounting [.text "/var/run/docker.sock//:/s:ro", .text "/proc",
    .mapping [("source", .text "/proc"), ("target", .text "/p")]]

/-- The mounts that they are read as. -/
def mixedMounts : Service :=
  mounter [⟨"/var/run/docker.sock//", "/s", .readOnly, .bindMount⟩,
    ⟨"", "/proc", .readWrite, .namedVolume⟩, ⟨"/proc", "/p", .readWrite, .bindMount⟩]

/-- A document without services, and the standard tables. -/
def plainContext : RuleContext where
  document := .empty "compose.yml"
  tables := .standard

/-- Two of the volumes are found, one of them with slashes behind its source, and a home directory
is found with slashes and without. -/
theorem findsMounted_mounting :
    (∃ shapes blocks,
      FindsMounted dangerousMounts plainContext mixedVolumes mixedMounts shapes blocks ∧
        blocks.flatten.length =
          shapes.countP (VolumeShape.IsDangerous RuleTables.standard.sensitiveMounts)) ∧
    dangerousMounts.hits? plainContext mixedMounts =
      some [⟨.high, "Service 'web' mounts dangerous path: /var/run/docker.sock"⟩,
        ⟨.medium, "Service 'web' mounts dangerous path: /proc"⟩] ∧
    (∃ mount, Manifest.mount "web" (.short "/home/me//:/h") = .ok mount) ∧
    (∃ longer, VolumeShape.AddsSlashes (.short "/home/me:/h") longer ∧
      Manifest.mount "web" longer = .ok ⟨"/home/me//", "/h", .readWrite, .bindMount⟩) ∧
    ∃ blocks others,
      FindsMounted broadFilesystemMounts plainContext (mounting [.text "/home/me:/h"])
        (mounter [⟨"/home/me", "/h", .readWrite, .bindMount⟩]) [.short "/home/me:/h"] blocks ∧
      FindsMounted broadFilesystemMounts plainContext (mounting [.text "/home/me//:/h"])
        (mounter [⟨"/home/me//", "/h", .readWrite, .bindMount⟩]) [.short "/home/me//:/h"] others ∧
      List.Forall₂ (fun block block' => block = [] ↔ block' = []) blocks others := by
  obtain ⟨hread, hdangerous, haccepts, halike⟩ := findsMounted_of_readsAs
  have hsegment : IsSegment "/home/me" := ⟨by decide, by unfold Uncut; decide⟩
  have hadds : VolumeShape.AddsSlashes (.short "/home/me:/h") (.short "/home/me//:/h") :=
    .short "/h" 2 hsegment (by decide)
  have hone : Manifest.mount "web" (.short "/home/me:/h") =
      .ok ⟨"/home/me", "/h", .readWrite, .bindMount⟩ := rfl
  have hmore : Manifest.mount "web" (.short "/home/me//:/h") =
      .ok ⟨"/home/me//", "/h", .readWrite, .bindMount⟩ := rfl
  have hplain : FindsMounted broadFilesystemMounts plainContext (mounting [.text "/home/me:/h"])
      (mounter [⟨"/home/me", "/h", .readWrite, .bindMount⟩]) [.short "/home/me:/h"] _ :=
    judgesMounts_broadFilesystemMounts.findsMounted ⟨_, _, rfl, rfl, rfl⟩ (.cons hone .nil)
  have hslashes : FindsMounted broadFilesystemMounts plainContext
      (mounting [.text "/home/me//:/h"]) (mounter [⟨"/home/me//", "/h", .readWrite, .bindMount⟩])
      [.short "/home/me//:/h"] _ :=
    judgesMounts_broadFilesystemMounts.findsMounted ⟨_, _, rfl, rfl, rfl⟩ (.cons hmore .nil)
  have hmixed : Manifest.ReadsAs "web" mixedVolumes mixedMounts := ⟨_, rfl, rfl⟩
  refine ⟨?_, by decide +kernel, (haccepts hone).1 _ hadds,
    (haccepts hone).2 rfl 2, _, _, hplain, hslashes,
    halike _ (by simp [onHostPaths]) hplain hslashes (.cons hadds .nil)⟩
  obtain ⟨shapes, blocks, hfinds⟩ := hread dangerousMounts (by simp [onHostPaths]) hmixed
  exact ⟨shapes, blocks, hfinds, (hdangerous hfinds).2⟩

end Rule

end ComposeLint
