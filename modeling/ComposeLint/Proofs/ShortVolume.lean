import ComposeLint.Proofs.Canonical
import ComposeLint.Proofs.Closed
import ComposeLint.Proofs.FirstFault
import ComposeLint.Proofs.Volume

/-!
# Short forms of volumes

Whether a text is a volume follows from its segments, which the colons outside of groups hold
together. What the segments of a text are can be said without reading it from left to right: there
is one way to cut a text at a separator so that every part but the last closes its groups and no
part shows the separator (`Substitution.split_eq_iff`). Of the segments one is the container path
(`Mount.containerPath?`), and a volume should have one to three segments and a container path that
is not empty (`Mount.IsVolume`). This is how every text is judged but the empty one, which is taken
for an anonymous volume without a path (`Mount.readsShort`).
-/

namespace ComposeLint

/-! ## Cutting at a separator -/

namespace Substitution

variable {sep : Char} {text before : List Char} {parts : List (List Char)}

/-- Whether a text is the given parts, held together by a separator. -/
inductive CutInto (sep : Char) : List Char → List (List Char) → Prop
  /-- A text that does not show the separator is one part. -/
  | whole {text : List Char} : Uncut sep text → CutInto sep text [text]
  /-- A part that closes its groups and does not show the separator stands before it. -/
  | cons {before after : List Char} {parts : List (List Char)} :
      Closed before → Uncut sep before → CutInto sep after parts →
        CutInto sep (before ++ sep :: after) (before :: parts)

theorem split_append_divides (hsep : Divides sep) (hclosed : Closed before)
    (huncut : Uncut sep before) (after : List Char) :
    split sep (before ++ sep :: after) = before :: split sep after := by
  rw [split_of_mark hsep.separates (mark_append_divides hsep hclosed after), split_of_uncut huncut,
    List.singleton_append]

theorem CutInto.split_eq (hsep : Divides sep) (h : CutInto sep text parts) :
    split sep text = parts := by
  induction h with
  | whole huncut => exact split_of_uncut huncut
  | cons hclosed huncut _ ih => rw [split_append_divides hsep hclosed huncut, ih]

/-- The recursion is on what stands behind the first cut, which is shorter. -/
theorem cutInto_split (hsep : Divides sep) (text : List Char) :
    CutInto sep text (split sep text) := by
  cases hcut : cutFirst? sep text with
  | none =>
    have huncut : Uncut sep text := cutFirst?_eq_none_iff.mp hcut
    rw [split_of_uncut huncut]
    exact .whole huncut
  | some cut =>
    obtain ⟨htext, hclosed, huncut⟩ := (cutFirst?_eq_some_iff hsep).mp hcut
    have hlength : cut.2.length < text.length := by
      rw [htext, List.length_append, List.length_cons]
      omega
    have hafter : CutInto sep cut.2 (split sep cut.2) := cutInto_split hsep cut.2
    rw [htext, split_append_divides hsep hclosed huncut]
    exact .cons hclosed huncut hafter
termination_by text.length

/-- **A text is cut in one way only.** -/
theorem split_eq_iff (hsep : Divides sep) : split sep text = parts ↔ CutInto sep text parts :=
  ⟨fun h => h ▸ cutInto_split hsep text, CutInto.split_eq hsep⟩

end Substitution

/-! ## What segments say -/

/-- Two modes are the same if both are read-only or neither is. -/
theorem MountMode.eq_of_iff {mode mode' : MountMode}
    (h : mode = .readOnly ↔ mode' = .readOnly) : mode = mode' := by
  cases mode <;> cases mode' <;> simp at h ⊢

namespace Mount

open Substitution

variable {parts : List String} {path written service : String} {mode : MountMode} {mount : Mount}

/-- The segments of a short form: its parts between the colons outside of groups. -/
def segments (written : String) : List String := (split ':' written.toList).map String.ofList

/-- The container path among segments: the only one, or the second. -/
def containerPath? : List String → Option String
  | [path] => some path
  | _ :: path :: _ => some path
  | [] => none

/-- The source among segments: the first of several. -/
def sourceOf : List String → String
  | source :: _ :: _ => source
  | _ => ""

/-- Whether a third segment has a flag that is `ro` but for blanks around it. -/
def AsksReadOnly (parts : List String) : Prop :=
  ∃ flags, parts[2]? = some flags ∧
    ∃ flag ∈ flags.toList.splitOn ',', Text.trim flag = "ro".toList

/-- Whether segments make a volume: there are one to three, and the container path is not empty. -/
structure IsVolume (parts : List String) : Prop where
  atLeast : 1 ≤ parts.length
  atMost : parts.length ≤ 3
  path : ∃ path, containerPath? parts = some path ∧ path ≠ ""

/-- What is read of segments. -/
structure ReadFrom (parts : List String) (mount : Mount) : Prop where
  target : containerPath? parts = some mount.target
  source : mount.source = sourceOf parts
  mode : mount.mode = .readOnly ↔ AsksReadOnly parts
  kind : mount.kind = .of mount.source

theorem isVolume_iff (hpath : containerPath? parts = some path) :
    IsVolume parts ↔ parts.length ≤ 3 ∧ path ≠ "" := by
  have hpos : 1 ≤ parts.length := by
    cases parts with
    | nil => cases hpath
    | cons => simp
  constructor
  · rintro ⟨-, hlength, other, hother, hne⟩
    obtain rfl := Option.some.inj (hpath.symm.trans hother)
    exact ⟨hlength, hne⟩
  · rintro ⟨hlength, hne⟩
    exact ⟨hpos, hlength, path, hpath, hne⟩

/-- **Segments say all that a mount is.** -/
theorem readFrom_iff (hpath : containerPath? parts = some path)
    (hmode : mode = .readOnly ↔ AsksReadOnly parts) :
    ReadFrom parts mount ↔ ofParts (sourceOf parts) path mode = mount := by
  constructor
  · rintro ⟨htarget, hsource, hreadOnly, hkind⟩
    have hmodes : mode = mount.mode := MountMode.eq_of_iff (hmode.trans hreadOnly.symm)
    obtain rfl := Option.some.inj (hpath.symm.trans htarget)
    rw [ofParts, hmodes, ← hsource, ← hkind]
  · rintro rfl
    exact ⟨hpath, rfl, hmode, rfl⟩

/-- Without a third segment nothing asks for reading only. -/
theorem readWrite_iff (h : parts.length ≤ 2) :
    MountMode.readWrite = .readOnly ↔ AsksReadOnly parts := by
  have hnone : parts[2]? = none := List.getElem?_eq_none h
  simp [AsksReadOnly, hnone]

theorem modeOf_iff {source target : String} (flags : List Char) :
    modeOf flags = .readOnly ↔ AsksReadOnly [source, target, String.ofList flags] := by
  rw [modeOf_eq_readOnly_iff]
  simp [AsksReadOnly]

/-- **What parts are read as.** A lone part may be empty, the container path among several not. -/
theorem ofParts?_eq_some_iff {cut : List (List Char)} (h : cut.map String.ofList = parts) :
    ofParts? cut = some mount ↔ (parts = [""] ∨ IsVolume parts) ∧ ReadFrom parts mount := by
  subst h
  match cut with
  | [] =>
    refine iff_of_false (by simp [ofParts?]) ?_
    rintro ⟨hempty | hvolume, -⟩
    · cases hempty
    · exact absurd hvolume.atLeast (by simp)
  | [target] =>
    have haccepted : [String.ofList target] = [""] ∨ IsVolume [String.ofList target] := by
      rw [isVolume_iff rfl]
      by_cases hempty : String.ofList target = ""
      · exact .inl (by rw [hempty])
      · exact .inr ⟨by simp, hempty⟩
    rw [List.map_singleton, and_iff_right haccepted,
      readFrom_iff rfl (readWrite_iff (by simp)), ofParts?, Option.some.injEq]
    rfl
  | [source, target] =>
    have hmany : [String.ofList source, String.ofList target] ≠ [""] := by simp
    rw [List.map_cons, List.map_singleton, or_iff_right hmany, isVolume_iff rfl,
      readFrom_iff rfl (readWrite_iff (by simp)), ofParts?]
    cases target <;> simp [sourceOf]
  | [source, target, flags] =>
    have hmany : [String.ofList source, String.ofList target, String.ofList flags] ≠ [""] := by simp
    simp only [List.map_cons, List.map_nil]
    rw [or_iff_right hmany, isVolume_iff rfl, readFrom_iff rfl (modeOf_iff flags), ofParts?]
    cases target <;> simp [sourceOf]
  | _ :: _ :: _ :: _ :: _ =>
    refine iff_of_false (by simp [ofParts?]) ?_
    rintro ⟨hempty | hvolume, -⟩
    · simp at hempty
    · exact absurd hvolume.atMost (by simp)

/-! ## Reading a short form -/

theorem map_toList_segments (written : String) :
    (segments written).map String.toList = split ':' written.toList := by
  simp [segments]

/-- Only the empty text has one segment that is empty. -/
theorem segments_eq_singleton_iff : segments written = [""] ↔ written = "" := by
  constructor
  · intro h
    have hsplit : split ':' written.toList = [[]] := by rw [← map_toList_segments, h]; rfl
    have htext : written.toList = [] := by rw [← intercalate_split ':' written.toList, hsplit]; rfl
    exact String.toList_eq_nil_iff.mp htext
  · rintro rfl
    rfl

/-- The empty text has no container path. -/
theorem not_isVolume_segments_empty : ¬ IsVolume (segments "") := by
  rintro ⟨-, -, path, hpath, hne⟩
  exact hne (Option.some.inj hpath).symm

theorem mount_short_eq_ok_iff : Manifest.mount service (.short written) = .ok mount ↔
    (written = "" ∨ IsVolume (segments written)) ∧ ReadFrom (segments written) mount := by
  have hparts : Mount.parse? written = some mount ↔
      (segments written = [""] ∨ IsVolume (segments written)) ∧ ReadFrom (segments written) mount :=
    ofParts?_eq_some_iff rfl
  rw [← segments_eq_singleton_iff, ← hparts]
  exact Manifest.orFault_eq_ok_iff

/-- Whatever is accepted can be read. -/
theorem exists_readFrom (h : written = "" ∨ IsVolume (segments written)) :
    ∃ mount, ReadFrom (segments written) mount := by
  obtain ⟨path, hpath⟩ : ∃ path, containerPath? (segments written) = some path := by
    rcases h with rfl | hvolume
    · exact ⟨"", rfl⟩
    · obtain ⟨path, hpath, -⟩ := hvolume.path
      exact ⟨path, hpath⟩
  by_cases hreadOnly : AsksReadOnly (segments written)
  · have hmode : MountMode.readOnly = .readOnly ↔ AsksReadOnly (segments written) :=
      iff_of_true rfl hreadOnly
    exact ⟨_, (readFrom_iff hpath hmode).mpr rfl⟩
  · have hmode : MountMode.readWrite = .readOnly ↔ AsksReadOnly (segments written) :=
      iff_of_false (by decide) hreadOnly
    exact ⟨_, (readFrom_iff hpath hmode).mpr rfl⟩

/-- How a text is read as a volume of a service. -/
structure ReadsShort (service written : String) : Prop where
  /-- There is one way to cut the text, and it gives the segments. -/
  cut : ∀ parts, CutInto ':' written.toList parts ↔ parts = (segments written).map String.toList
  accepted : (∃ mount, Manifest.mount service (.short written) = .ok mount) ↔
    written = "" ∨ IsVolume (segments written)
  read : ∀ mount, Manifest.mount service (.short written) = .ok mount →
    ReadFrom (segments written) mount
  refused : ∀ fault, Manifest.mount service (.short written) = .error fault →
    fault = .invalidVolume service written
  /-- A container path is asked for everywhere but in the empty text. -/
  exact : ((∃ mount, Manifest.mount service (.short written) = .ok mount) ↔
    IsVolume (segments written)) ↔ written ≠ ""

/-- **Every text is read by its segments**, and the empty one is a volume as well. -/
theorem readsShort (service written : String) : ReadsShort service written := by
  have haccepted : (∃ mount, Manifest.mount service (.short written) = .ok mount) ↔
      written = "" ∨ IsVolume (segments written) := by
    simp only [mount_short_eq_ok_iff, exists_and_left]
    exact and_iff_left_of_imp exists_readFrom
  refine ⟨fun parts => ?_, haccepted, fun mount hmount => (mount_short_eq_ok_iff.mp hmount).2,
    fun fault hfault => ?_, ?_⟩
  · rw [← split_eq_iff divides_colon, map_toList_segments, eq_comm]
  · obtain ⟨-⟩ := Manifest.mount_eq_error_iff.mp hfault
    rfl
  · rw [haccepted]
    constructor
    · rintro hagrees rfl
      exact not_isVolume_segments_empty (hagrees.mp (.inl rfl))
    · exact fun hne => or_iff_right hne

/-- A service with an empty volume. -/
def emptyVolume : Tree :=
  .mapping [("services", .mapping [("web", .mapping [("volumes", .list [.text ""])])])]

/-- The empty text has no container path, and a manifest with it is accepted all the same. -/
theorem not_forall_isVolume :
    (¬ ∀ service written, (∃ mount, Manifest.mount service (.short written) = .ok mount) ↔
      IsVolume (segments written)) ∧
    ∃ document, Document.ofTree "compose.yml" (some emptyVolume) = .ok document := by
  refine ⟨fun h => ?_, _, rfl⟩
  have hread : Manifest.mount "web" (.short "") = .ok ⟨"", "", .readWrite, .namedVolume⟩ := rfl
  exact not_isVolume_segments_empty ((h "web" "").mp ⟨_, hread⟩)

end Mount

end ComposeLint
