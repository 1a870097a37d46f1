import ComposeLint.Proofs.DangerousMounts

/-!
# Broad mounts as they are written

A bind mount is broad if what is left of its source without the slashes at its end (`Leaves`) is the
root of the host, or the directory of the homes or something in it (`IsBroadPath`). The rule on
broad mounts looks at the beginning of the text instead, and a text begins like a directory in two
cases (`isPrefix_iff_liesUnder_or`): the path lies under the directory, or it is a path beside it
whose name begins with the same letters (`NamedLike`). So all broad mounts are found, each of them
once (`Rule.findsBroad_of_readsAs`), and together with them what only has such a name.
-/

namespace ComposeLint

variable {source path directory : String}

/-! ## What is left of a source -/

/-- What is left of a source without the slashes at its end. -/
inductive Leaves : String → String → Prop
  /-- Of slashes alone the first one is left. -/
  | root (count : Nat) : Leaves (slashes (count + 1)) "/"
  | path {path : String} (count : Nat) : path ≠ "" → path.toList.getLast? ≠ some '/' →
      Leaves (path ++ slashes count) path

theorem slashes_succ (count : Nat) : slashes (count + 1) = "/" ++ slashes count := by
  rw [← String.toList_inj, String.toList_append, toList_slashes, toList_slashes]
  rfl

namespace Leaves

/-- **Only one path is left of a source.** -/
theorem eq (h : Leaves source path) : Rule.withoutTrailingSlashes source = path := by
  cases h with
  | root count =>
    rw [slashes_succ, Rule.withoutTrailingSlashes_append (by decide)]
    decide
  | path count hne hlast =>
    rw [Rule.withoutTrailingSlashes_append hne, Rule.withoutTrailingSlashes_eq_self hne hlast]

/-- There is a path left of every source but the empty one. -/
theorem of_ne (h : source ≠ "") : Leaves source (Rule.withoutTrailingSlashes source) := by
  obtain ⟨count, hsource⟩ := Rule.exists_append_slashes source
  by_cases hnil : source.toList.rdropWhile (· == '/') = []
  · have hslashes : source = slashes count := by
      rw [hnil] at hsource
      rw [hsource, ← String.toList_inj, String.toList_append, toList_slashes]
      rfl
    cases count with
    | zero => exact absurd hslashes h
    | succ count =>
      have hroot : Leaves source "/" := hslashes ▸ .root count
      rwa [hroot.eq]
  · have hne : String.ofList (source.toList.rdropWhile (· == '/')) ≠ "" := by simpa using hnil
    have hlast :
        (String.ofList (source.toList.rdropWhile (· == '/'))).toList.getLast? ≠ some '/' := by
      rw [String.toList_ofList, List.getLast?_eq_some_getLast hnil]
      have hslash := List.rdropWhile_last_not (· == '/') source.toList hnil
      simpa using hslash
    have hpath := Leaves.path count hne hlast
    rw [← hsource] at hpath
    rwa [hpath.eq]

end Leaves

/-! ## Paths and texts -/

/-- Whether a path is a directory, or lies in it. -/
def LiesUnder (directory path : String) : Prop :=
  path = directory ∨ (directory ++ "/").toList <+: path.toList

/-- Whether a path lies beside a directory, under a name that goes on where the other one ends. -/
def NamedLike (directory path : String) : Prop :=
  ∃ c rest, c ≠ '/' ∧ path.toList = directory.toList ++ c :: rest

/-- **What begins like a directory** lies under it or has such a name. -/
theorem isPrefix_iff_liesUnder_or :
    directory.toList <+: path.toList ↔ LiesUnder directory path ∨ NamedLike directory path := by
  constructor
  · rintro ⟨rest, hrest⟩
    cases rest with
    | nil =>
      rw [List.append_nil, String.toList_inj] at hrest
      exact .inl (.inl hrest.symm)
    | cons c rest =>
      by_cases hc : c = '/'
      · subst hc
        exact .inl (.inr ⟨rest, by simp [← hrest]⟩)
      · exact .inr ⟨c, rest, hc, hrest.symm⟩
  · rintro ((rfl | ⟨rest, hrest⟩) | ⟨c, rest, -, hrest⟩)
    · exact List.prefix_rfl
    · exact ⟨"/".toList ++ rest, by simp [← hrest]⟩
    · exact ⟨c :: rest, hrest.symm⟩

/-- What has such a name does not lie under the directory. -/
theorem NamedLike.not_liesUnder (h : NamedLike directory path) : ¬ LiesUnder directory path := by
  obtain ⟨c, rest, hc, hpath⟩ := h
  rintro (rfl | ⟨others, hothers⟩)
  · simpa using congrArg List.length hpath
  · rw [hpath, String.toList_append, List.append_assoc, List.append_cancel_left_eq] at hothers
    exact hc (List.cons.inj hothers).1.symm

/-- Whether a path is the root of the host, or a part of it that holds the homes. -/
def IsBroadPath (path : String) : Prop := path = "/" ∨ LiesUnder "/home" path

theorem NamedLike.not_isBroadPath (h : NamedLike "/home" path) : ¬ IsBroadPath path := by
  rintro (rfl | hlies)
  · obtain ⟨c, rest, -, hpath⟩ := h
    cases hpath
  · exact h.not_liesUnder hlies

/-! ## What is found -/

namespace Rule

/-- The hit on a broad mount. It shows the source as it is written. -/
def broadHit (service : Service) (source : String) : Hit :=
  ⟨.high, about service ("has broad filesystem access: " ++ source)⟩

theorem isBroad_standard_iff :
    isBroad .standard path = true ↔ IsBroadPath path ∨ NamedLike "/home" path := by
  rw [IsBroadPath, or_assoc, ← isPrefix_iff_liesUnder_or]
  simp [isBroad, RuleTables.standard]

end Rule

namespace VolumeShape

variable {reports reports' : String → Prop} {shape : VolumeShape} {service : Service}
  {name : String}
  {mount : Mount} {block : List Hit}

/-- Whether a volume is a bind mount of a source, of which a path is left. -/
structure Binds (shape : VolumeShape) (source path : String) : Prop where
  written : shape.source? = some source
  kind : MountKind.of source = .bindMount
  leaves : Leaves source path

/-- What is found in a volume if some of the paths that are left are reported. -/
inductive Opens (reports : String → Prop) (service : Service) (shape : VolumeShape)
    (block : List Hit) : Prop
  | reported {source path : String} : shape.Binds source path → reports path →
      block = [Rule.broadHit service source] → Opens reports service shape block
  | spared {source path : String} : shape.Binds source path → ¬ reports path → block = [] →
      Opens reports service shape block
  /-- A volume that is no bind mount is not looked at. -/
  | unbound : (∀ source path, ¬ shape.Binds source path) → block = [] →
      Opens reports service shape block

/-- Only one path is bound. -/
theorem Binds.path_eq {other path' : String} (h : shape.Binds source path)
    (h' : shape.Binds other path') : path = path' := by
  obtain rfl := Option.some.inj (h.written.symm.trans h'.written)
  exact h.leaves.eq.symm.trans h'.leaves.eq

namespace Opens

/-- Something is found exactly if the path that is bound is reported. -/
theorem reports_iff (h : shape.Opens reports service block) (hbinds : shape.Binds source path) :
    reports path ↔ block ≠ [] := by
  cases h with
  | reported hbinds' hreported hblock =>
    rw [hbinds.path_eq hbinds', hblock]
    exact iff_of_true hreported (List.cons_ne_nil _ _)
  | spared hbinds' hspared hblock =>
    rw [hbinds.path_eq hbinds']
    exact iff_of_false hspared (not_not_intro hblock)
  | unbound hunbound => exact absurd hbinds (hunbound source path)

theorem congr (hreports : ∀ path, reports path ↔ reports' path)
    (h : shape.Opens reports service block) : shape.Opens reports' service block := by
  obtain rfl : reports = reports' := funext fun path => propext (hreports path)
  exact h

/-- **Reporting fewer paths** finds the same in a volume unless it binds one that is left out. -/
theorem iff_of_imp (hreports : ∀ path, reports path → reports' path)
    (h : shape.Opens reports' service block) : shape.Opens reports service block ↔
      ¬ ∃ source path, shape.Binds source path ∧ reports' path ∧ ¬ reports path := by
  constructor
  · rintro hopens ⟨source, path, hbinds, hreported, hnot⟩
    have hfound : block ≠ [] := (h.reports_iff hbinds).mp hreported
    exact hnot ((hopens.reports_iff hbinds).mpr hfound)
  · intro hno
    cases h with
    | @reported source path hbinds hreported hblock =>
      have hpath : reports path := by
        by_contra hnot
        exact hno ⟨source, path, hbinds, hreported, hnot⟩
      exact .reported hbinds hpath hblock
    | spared hbinds hspared hblock => exact .spared hbinds (mt (hreports _) hspared) hblock
    | unbound hunbound hblock => exact .unbound hunbound hblock

end Opens

/-- A mount that binds a path of the host was written so. -/
theorem binds_of_mount (h : Manifest.mount name shape = .ok mount)
    (hbind : mount.kind = .bindMount) :
    shape.Binds mount.source (Rule.withoutTrailingSlashes mount.source) := by
  have hkind : MountKind.of mount.source = .bindMount := (Manifest.kind_of_mount h).symm.trans hbind
  have hne : mount.source ≠ "" := MountKind.ne_empty_of_bindMount hkind
  exact ⟨source?_of_ne h hne, hkind, .of_ne hne⟩

theorem not_binds_of_mount (h : Manifest.mount name shape = .ok mount)
    (hbind : mount.kind ≠ .bindMount) (source path : String) : ¬ shape.Binds source path := by
  rintro ⟨hsource, hkind, -⟩
  have hmount : mount.source = source := by rw [source_of_mount h, hsource, Option.getD_some]
  exact hbind (by rw [Manifest.kind_of_mount h, hmount, hkind])

/-- **What is found in one volume** by the rule on broad mounts. -/
theorem opens_of_mount (tables : RuleTables) (service : Service)
    (h : Manifest.mount name shape = .ok mount) :
    shape.Opens (fun path => Rule.isBroad tables path = true) service
      (Rule.bindMountHits { service with volumeMounts := [mount] } fun mount source =>
        Rule.hitIf (Rule.isBroad tables source) .high
          (Rule.about service ("has broad filesystem access: " ++ mount.source))) := by
  rw [Rule.bindMountHits_singleton]
  by_cases hbind : mount.kind = .bindMount
  · have hbinds := binds_of_mount h hbind
    rw [if_pos hbind, Rule.hitIf]
    split
    · next hbroad => exact .reported hbinds hbroad rfl
    · next hbroad => exact .spared hbinds hbroad rfl
  · rw [if_neg hbind]
    exact .unbound (not_binds_of_mount h hbind) rfl

end VolumeShape

namespace Rule

variable {document : Document} {name : String} {tree : Tree} {service : Service}

/-- **Broad mounts are found as they are written**: a volume has one hit if the path that is left of
its source is broad, or has a name like that of the homes, and none if not. So what is found is what
is broad, except in a volume with such a name. -/
theorem findsBroad_of_readsAs (hread : Manifest.ReadsAs name tree service) :
    ∃ shapes blocks,
      FindsMounted broadFilesystemMounts ⟨document, .standard⟩ tree service shapes blocks ∧
      List.Forall₂ (fun shape block =>
        shape.Opens (fun path => IsBroadPath path ∨ NamedLike "/home" path) service block ∧
        (shape.Opens IsBroadPath service block ↔
          ¬ ∃ source path, shape.Binds source path ∧ NamedLike "/home" path)) shapes blocks := by
  obtain ⟨shapes, hlisted, hmounts, rfl⟩ := Manifest.volumes_of_readsAs hread
  refine ⟨shapes, _, judgesMounts_broadFilesystemMounts.findsMounted hlisted hmounts, ?_⟩
  rw [List.forall₂_map_right_iff]
  refine hmounts.imp fun shape mount hmount => ?_
  have hopens := (VolumeShape.opens_of_mount .standard service hmount).congr
    fun path => isBroad_standard_iff
  refine ⟨hopens, (hopens.iff_of_imp fun path => .inl).trans (not_congr ?_)⟩
  refine exists₂_congr fun source path => and_congr_right fun _ => ?_
  constructor
  · rintro ⟨hbroad | hnamed, hnot⟩
    · exact absurd hbroad hnot
    · exact hnamed
  · exact fun hnamed => ⟨.inr hnamed, hnamed.not_isBroadPath⟩

/-- Volumes of which two are broad, and one has a name like that of the homes. -/
def homeVolumes : Tree :=
  mounting [.text "//:/host", .text "/home/me/:/h:ro", .text "/homework:/w", .text "home:/d"]

/-- The mounts that they are read as. -/
def homeMounts : Service :=
  mounter [⟨"//", "/host", .readWrite, .bindMount⟩, ⟨"/home/me/", "/h", .readOnly, .bindMount⟩,
    ⟨"/homework", "/w", .readWrite, .bindMount⟩, ⟨"home", "/d", .readWrite, .namedVolume⟩]

theorem findsBroad_homeVolumes :
    Manifest.ReadsAs "web" homeVolumes homeMounts ∧
    (∃ shapes blocks,
      FindsMounted broadFilesystemMounts plainContext homeVolumes homeMounts shapes blocks ∧
      List.Forall₂ (fun shape block =>
        shape.Opens (fun path => IsBroadPath path ∨ NamedLike "/home" path) homeMounts block ∧
        (shape.Opens IsBroadPath homeMounts block ↔
          ¬ ∃ source path, shape.Binds source path ∧ NamedLike "/home" path)) shapes blocks) ∧
    broadFilesystemMounts.hits? plainContext homeMounts =
      some [broadHit homeMounts "//", broadHit homeMounts "/home/me/",
        broadHit homeMounts "/homework"] := by
  have hread : Manifest.ReadsAs "web" homeVolumes homeMounts := ⟨_, rfl, rfl⟩
  exact ⟨hread, findsBroad_of_readsAs hread, by decide +kernel⟩

/-- A directory beside the homes is reported like one of them. -/
theorem not_forall_opens_isBroadPath :
    ¬ ∀ {document : Document} {name : String} {tree : Tree} {service : Service}
      {shapes : List VolumeShape} {blocks : List (List Hit)}, Manifest.ReadsAs name tree service →
        FindsMounted broadFilesystemMounts ⟨document, .standard⟩ tree service shapes blocks →
          List.Forall₂ (VolumeShape.Opens IsBroadPath service) shapes blocks := by
  intro h
  have hread : Manifest.ReadsAs "web" (mounting [.text "/homework:/data"])
      (mounter [⟨"/homework", "/data", .readWrite, .bindMount⟩]) := ⟨_, rfl, rfl⟩
  have hmount : Manifest.mount "web" (.short "/homework:/data") =
      .ok ⟨"/homework", "/data", .readWrite, .bindMount⟩ := rfl
  have hfinds : FindsMounted broadFilesystemMounts plainContext (mounting [.text "/homework:/data"])
      (mounter [⟨"/homework", "/data", .readWrite, .bindMount⟩]) [.short "/homework:/data"] _ :=
    judgesMounts_broadFilesystemMounts.findsMounted ⟨_, _, rfl, rfl, rfl⟩ (.cons hmount .nil)
  have hbinds := VolumeShape.binds_of_mount hmount rfl
  have hnamed : NamedLike "/home" (withoutTrailingSlashes "/homework") :=
    ⟨'w', "ork".toList, by decide, by decide⟩
  obtain _ | ⟨hopens, -⟩ := h hread hfinds
  exact hnamed.not_isBroadPath ((hopens.reports_iff hbinds).mpr (by decide +kernel))

end Rule

end ComposeLint
