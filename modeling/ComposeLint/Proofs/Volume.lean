import ComposeLint.Manifest.Reading
import ComposeLint.Proofs.ReadingOrder
import ComposeLint.Proofs.Substitution

/-!
# The two ways of writing a volume

The short form of a volume holds its parts together by colons, and the long form has a field for
each of them. A part may hold any substitutions and escapes, and may end with a lone dollar; all
that is asked of it is that it closes its groups and shows no colon outside them (`IsSegment`). Then
no colon cuts but the ones between the parts (`split_segment_append`), and both forms are read as
the same mount (`readVolume_short_eq_long`).
-/

namespace ComposeLint

open Substitution

/-- A part of a short form: it closes the groups that it opens, and has no colon outside them. -/
structure IsSegment (text : String) : Prop where
  closed : openGroups 0 text.toList = 0
  uncut : Uncut ':' text.toList

variable {source target flags : String}

/-! ## The short form -/

theorem split_segment (h : IsSegment target) : split ':' target.toList = [target.toList] :=
  split_of_uncut h.uncut

/-- **The colon after a segment cuts.** -/
theorem split_segment_append (h : IsSegment source) (rest : String) :
    split ':' (source ++ ":" ++ rest).toList = source.toList :: split ':' rest.toList := by
  have hchars : (source ++ ":" ++ rest).toList = source.toList ++ ':' :: rest.toList := by simp
  rw [hchars, split_append_colon h.closed h.uncut]

/-- Flags without a colon and without a dollar are one segment. -/
theorem split_flags (hcolon : ':' ∉ flags.toList) (hdollar : '$' ∉ flags.toList) :
    split ':' flags.toList = [flags.toList] :=
  split_of_uncut (uncut_plain hdollar hcolon)

namespace Mount

/-- **The mode of flags** is read-only exactly when one of them is `ro`. -/
theorem modeOf_eq_readOnly_iff (flags : List Char) :
    modeOf flags = .readOnly ↔ ∃ flag ∈ flags.splitOn ',', Text.trim flag = "ro".toList := by
  have hany : (Text.pieces ',' flags).any (fun flag => Text.trim flag == "ro".toList) = true ↔
      ∃ flag ∈ flags.splitOn ',', Text.trim flag = "ro".toList := by
    rw [Text.pieces_eq_splitOn, List.any_eq_true]
    simp only [beq_iff_eq]
  rw [modeOf, ← hany]
  split <;> simp_all

theorem parse?_target (h : IsSegment target) :
    parse? target = some ⟨"", target, .readWrite, .namedVolume⟩ := by
  rw [parse?, split_segment h, ofParts?, ofParts, String.ofList_toList]
  rfl

theorem parse?_source_target (hsource : IsSegment source) (htarget : IsSegment target)
    (hne : target ≠ "") :
    parse? (source ++ ":" ++ target) = some ⟨source, target, .readWrite, .of source⟩ := by
  have hempty : target.toList.isEmpty = false := by simpa using hne
  rw [parse?, split_segment_append hsource, split_segment htarget, ofParts?, hempty]
  simp [ofParts]

theorem parse?_source_target_flags (hsource : IsSegment source) (htarget : IsSegment target)
    (hne : target ≠ "") (hcolon : ':' ∉ flags.toList) (hdollar : '$' ∉ flags.toList) :
    parse? (source ++ ":" ++ target ++ ":" ++ flags) =
      some ⟨source, target, modeOf flags.toList, .of source⟩ := by
  have hempty : target.toList.isEmpty = false := by simpa using hne
  have hassoc : source ++ ":" ++ target ++ ":" ++ flags =
      source ++ ":" ++ (target ++ ":" ++ flags) := by
    simp only [String.append_assoc]
  rw [hassoc, parse?, split_segment_append hsource, split_segment_append htarget,
    split_flags hcolon hdollar, ofParts?, hempty]
  simp [ofParts]

end Mount

/-! ## The long form -/

/-- The fields of the long form: the target, and the source and the flag if they are written. -/
def longFields (source : Option String) (target : String) (readOnly : Option Bool) :
    List (String × Tree) :=
  (source.map fun s => ("source", Tree.text s)).toList ++ ("target", .text target) ::
    (readOnly.map fun b => ("read_only", Tree.bool b)).toList

/-- The long form of a volume. -/
def longVolume (source : Option String) (target : String) (readOnly : Option Bool) : Tree :=
  .mapping (longFields source target readOnly)

/-- Reads one volume of a service, in either form. -/
def readVolume (service : String) (tree : Tree) : Option Mount :=
  match Manifest.volume (some tree) with
  | .valid shape => (Manifest.mount service shape).toOption
  | _ => none

theorem readVolume_text (service written : String) :
    readVolume service (.text written) = Mount.parse? written := by
  have hshape : Manifest.volume (some (.text written)) = .valid (.short written) := rfl
  rw [readVolume, hshape]
  simp only [Manifest.mount]
  cases Mount.parse? written <;> rfl

/-- The long form has the shape of a volume. -/
theorem Manifest.volume_longVolume (source : Option String) (target : String)
    (readOnly : Option Bool) :
    volume (some (longVolume source target readOnly)) =
      .valid (.long source target (readOnly.getD false)) := by
  have hkeys : ((longFields source target readOnly).map Prod.fst).Sublist
      ["source", "target", "read_only"] := by
    cases source <;> cases readOnly <;> simp [longFields]
  have hposition : ∀ key ∈ ["source", "target", "read_only"], position? key = none := by decide
  have hentries : (longVolume source target readOnly).entries? =
      some (longFields source target readOnly) := by
    rw [longVolume, Tree.entries?_mapping, readingOrder_eq_self (hkeys.nodup (by decide))
      fun entry hentry => hposition _ (hkeys.subset (List.mem_map_of_mem hentry))]
  simp only [volume, Check.either, List.map_cons, List.map_nil, Check.object, hentries, Check.field]
  cases source <;> cases readOnly <;> rfl

theorem readVolume_long (service : String) (source : Option String) (target : String)
    (readOnly : Option Bool) :
    readVolume service (longVolume source target readOnly) =
      some (Mount.ofLong source target (readOnly.getD false)) := by
  rw [readVolume, Manifest.volume_longVolume]
  rfl

/-- Whether a text in the short form and a tree in the long form are both read as a mount. -/
structure BothReadAs (service short : String) (long : Tree) (mount : Mount) : Prop where
  short : readVolume service (.text short) = some mount
  long : readVolume service long = some mount

theorem bothReadAs_iff {service short : String} {readOnly : Option Bool} {mount : Mount}
    {source : Option String} :
    BothReadAs service short (longVolume source target readOnly) mount ↔
      Mount.parse? short = some mount ∧
        Mount.ofLong source target (readOnly.getD false) = mount := by
  constructor
  · rintro ⟨hshort, hlong⟩
    rw [readVolume_text] at hshort
    rw [readVolume_long] at hlong
    exact ⟨hshort, Option.some.inj hlong⟩
  · rintro ⟨hshort, hlong⟩
    exact ⟨by rw [readVolume_text, hshort], by rw [readVolume_long, hlong]⟩

/-- **The two ways of writing a volume agree.** Whatever segments a source and a target are, both
forms are read as the mount of that source and target, of the kind that the source has,

- for writing if there are no flags, or `rw`, and `read_only` is missing or false,
- for reading only if one of the flags is `ro`, and `read_only` is true,

and without a source both are read as an anonymous volume. -/
theorem readVolume_short_eq_long (service : String) {source target : String}
    (hsource : IsSegment source) (htarget : IsSegment target) (hne : target ≠ "") :
    BothReadAs service (source ++ ":" ++ target) (longVolume (some source) target none)
        ⟨source, target, .readWrite, .of source⟩ ∧
      (∀ flags : String, ':' ∉ flags.toList → '$' ∉ flags.toList →
        (∃ flag ∈ flags.toList.splitOn ',', Text.trim flag = "ro".toList) →
          BothReadAs service (source ++ ":" ++ target ++ ":" ++ flags)
            (longVolume (some source) target (some true))
            ⟨source, target, .readOnly, .of source⟩) ∧
      BothReadAs service (source ++ ":" ++ target ++ ":" ++ "rw")
        (longVolume (some source) target (some false)) ⟨source, target, .readWrite, .of source⟩ ∧
      BothReadAs service target (longVolume none target none)
        ⟨"", target, .readWrite, .namedVolume⟩ := by
  simp only [bothReadAs_iff]
  refine ⟨⟨Mount.parse?_source_target hsource htarget hne, rfl⟩,
    fun flags hcolon hdollar hflag => ⟨?_, rfl⟩, ⟨?_, rfl⟩, ⟨Mount.parse?_target htarget, rfl⟩⟩
  · rw [Mount.parse?_source_target_flags hsource htarget hne hcolon hdollar,
      (Mount.modeOf_eq_readOnly_iff _).mpr hflag]
  · rw [Mount.parse?_source_target_flags hsource htarget hne (by decide) (by decide)]
    rfl

/-- A source with a colon in a group and a dollar at its end, and a target that ends with an escape.
-/
theorem readVolume_dollars :
    IsSegment "$\x7bDATA:-/srv\x7d$" ∧ IsSegment "/data$$" ∧
      BothReadAs "web" "$\x7bDATA:-/srv\x7d$:/data$$:z, ro"
        (longVolume (some "$\x7bDATA:-/srv\x7d$") "/data$$" (some true))
        ⟨"$\x7bDATA:-/srv\x7d$", "/data$$", .readOnly, .substitution⟩ := by
  have hsource : IsSegment "$\x7bDATA:-/srv\x7d$" := ⟨by decide, by unfold Uncut; decide⟩
  have htarget : IsSegment "/data$$" := ⟨by decide, by unfold Uncut; decide⟩
  exact ⟨hsource, htarget,
    (readVolume_short_eq_long "web" hsource htarget (by decide)).2.1 "z, ro" (by decide) (by decide)
      ⟨" ro".toList, by decide, by decide⟩⟩

end ComposeLint
