import ComposeLint.Image
import ComposeLint.Proofs.Closed

/-!
# The normal form of an image reference

Reading takes any text apart, not only a reference that somebody would write. `Cuts` are the parts
that it finds. What they are free of is said by `Cuts.Sound`, and this and the text fix them
(`sound_cuts`, `cuts_chars`). Writing an image fills in the tag and leaves an empty digest out.
The parts are as free of separators as before (`Cuts.Sound.full`), so that reading finds them
again, and the text differs from the one that was read by these two changes alone
(`parse_written`).
-/

namespace ComposeLint

open Substitution

namespace Image

/-! ## The parts of a text -/

/-- An optional part in front of its separator. -/
def ahead (sep : Char) (part : Option (List Char)) : List Char := part.elim [] (· ++ [sep])

/-- An optional part behind its separator. -/
def behind (sep : Char) (part : Option (List Char)) : List Char := part.elim [] (sep :: ·)

/-- Whether no registry is read off a path: what stands before its first slash is no host. -/
def NoHost (path : List Char) : Prop :=
  ∀ first rest, cutFirst? '/' path = some (first, rest) → isHost first = false

/-- Whether no tag is read off a path: a slash follows its last colon. -/
def NoTag (path : List Char) : Prop :=
  ∀ before after, cutLast? ':' path = some (before, after) → ¬ Uncut '/' after

/-- The parts of an image reference as they stand in a text; a tag or a digest may be empty. -/
structure Cuts where
  registry : Option (List Char)
  repository : List Char
  tag : Option (List Char)
  digest : Option (List Char)

/-- The parts that reading finds. -/
def cuts (text : List Char) : Cuts :=
  let (name, digest) := splitDigest text
  let (registry, path) := splitRegistry name
  let (repository, tag) := splitTag path
  { registry, repository, tag, digest }

namespace Cuts

/-- The registry and the repository. -/
def front (cuts : Cuts) : List Char := ahead '/' cuts.registry ++ cuts.repository

/-- The text that has these parts. -/
def chars (cuts : Cuts) : List Char :=
  cuts.front ++ behind ':' cuts.tag ++ behind '@' cuts.digest

/-- The image that has these parts. -/
def image (raw : String) (cuts : Cuts) : Image where
  raw
  registry := cuts.registry.map String.ofList
  repository := String.ofList cuts.repository
  tag := (nonempty? cuts.tag).getD defaultTag
  digest := nonempty? cuts.digest

/-- The parts are read as they stand: none has a separator that is looked for before its own. -/
structure Sound (cuts : Cuts) : Prop where
  registry : ∀ host ∈ cuts.registry, isHost host = true ∧ Whole ['/', '@'] host
  repository : Whole ['@'] cuts.repository
  tag : ∀ tag ∈ cuts.tag, Whole [':', '/', '@'] tag
  digest : ∀ digest ∈ cuts.digest, Whole [] digest
  noHost : cuts.registry = none → NoHost cuts.repository
  noTag : cuts.tag = none → NoTag cuts.repository

end Cuts

theorem parse_eq_image (raw : String) : parse raw = (cuts (Text.trim raw.toList)).image raw := by
  simp only [parse, cuts, Cuts.image]

variable {text name path host repository tag cs : List Char} {seps : List Char} {sep : Char}
variable {registry tag? digest? part : Option (List Char)}

/-- A text is whole when it and the part in front of it are. -/
theorem whole_ahead_append_iff (hsep : Divides sep) (h : ∀ before ∈ part, Closed before)
    (hne : sep ∉ seps) :
    Whole seps (ahead sep part ++ cs) ↔ (∀ before ∈ part, Whole seps before) ∧ Whole seps cs := by
  cases part with
  | none => simp [ahead]
  | some before => simpa [ahead] using whole_append_cons_iff hsep (h before rfl) hne

/-- A text is whole when it and the part behind it are. -/
theorem whole_append_behind_iff (hsep : Divides sep) (h : ∀ after ∈ part, Closed cs)
    (hne : sep ∉ seps) :
    Whole seps (cs ++ behind sep part) ↔ Whole seps cs ∧ ∀ after ∈ part, Whole seps after := by
  cases part with
  | none => simp [behind]
  | some after => simpa [behind] using whole_append_cons_iff hsep (h after rfl) hne

/-! ## Each step of reading -/

/-- **The digest** is what follows the first at sign. -/
theorem splitDigest_eq_iff (h : Closed text) : splitDigest text = (name, digest?) ↔
    text = name ++ behind '@' digest? ∧ Closed name ∧ Uncut '@' name := by
  constructor
  · intro heq
    rw [splitDigest] at heq
    split at heq
    · next before after hcut =>
      obtain ⟨rfl, rfl⟩ := Prod.mk.inj heq
      exact (cutFirst?_eq_some_iff divides_at).mp hcut
    · next hcut =>
      obtain ⟨rfl, rfl⟩ := Prod.mk.inj heq
      exact ⟨(List.append_nil _).symm, h, cutFirst?_eq_none_iff.mp hcut⟩
  · rintro ⟨rfl, hclosed, huncut⟩
    cases digest? with
    | none => simp [splitDigest, behind, cutFirst?_eq_none_iff.mpr huncut]
    | some digest =>
      have hcut : cutFirst? '@' (name ++ '@' :: digest) = some (name, digest) :=
        (cutFirst?_eq_some_iff divides_at).mpr ⟨rfl, hclosed, huncut⟩
      simp [splitDigest, behind, hcut]

/-- **The registry** is the host before the first slash. -/
theorem splitRegistry_eq_iff : splitRegistry name = (registry, path) ↔
    name = ahead '/' registry ++ path ∧
      (∀ host ∈ registry, isHost host = true ∧ Closed host ∧ Uncut '/' host) ∧
      (registry = none → NoHost path) := by
  constructor
  · intro heq
    rw [splitRegistry] at heq
    split at heq
    · next first rest hcut =>
      split at heq
      · next hhost =>
        obtain ⟨rfl, rfl⟩ := Prod.mk.inj heq
        obtain ⟨htext, hfirst⟩ := (cutFirst?_eq_some_iff divides_slash).mp hcut
        exact ⟨by simpa [ahead] using htext, by simpa using ⟨hhost, hfirst⟩, nofun⟩
      · next hhost =>
        obtain ⟨rfl, rfl⟩ := Prod.mk.inj heq
        refine ⟨rfl, nofun, fun _ first' rest' hcut' => ?_⟩
        obtain ⟨rfl, -⟩ := Prod.mk.inj (Option.some.inj (hcut.symm.trans hcut'))
        exact Bool.eq_false_iff.mpr hhost
    · next hcut =>
      obtain ⟨rfl, rfl⟩ := Prod.mk.inj heq
      exact ⟨rfl, nofun, fun _ first rest hcut' => nomatch hcut.symm.trans hcut'⟩
  · rintro ⟨rfl, hhost, hnone⟩
    cases registry with
    | none =>
      cases hcut : cutFirst? '/' path with
      | none => simp [splitRegistry, ahead, hcut]
      | some cut => simp [splitRegistry, ahead, hcut, hnone rfl cut.1 cut.2 hcut]
    | some host =>
      obtain ⟨hishost, hhost⟩ := hhost host rfl
      have hcut : cutFirst? '/' (host ++ '/' :: path) = some (host, path) :=
        (cutFirst?_eq_some_iff divides_slash).mpr ⟨rfl, hhost⟩
      simp [splitRegistry, ahead, hcut, hishost]

/-- **The tag** is what follows the last colon, if no slash does. -/
theorem splitTag_eq_iff : splitTag path = (repository, tag?) ↔
    path = repository ++ behind ':' tag? ∧
      (∀ tag ∈ tag?, Closed repository ∧ Uncut ':' tag ∧ Uncut '/' tag) ∧
      (tag? = none → NoTag repository) := by
  have huncut : ∀ {cs}, (Text.cutFirst? (isCut '/') (mark 0 cs)).isNone = true ↔ Uncut '/' cs :=
    fun {cs} => by rw [Option.isNone_iff_eq_none, Text.cutFirst?_eq_none_iff]; rfl
  constructor
  · intro heq
    rw [splitTag] at heq
    split at heq
    · next before after hcut =>
      split at heq
      · next hslash =>
        obtain ⟨rfl, rfl⟩ := Prod.mk.inj heq
        obtain ⟨htext, hclosed, hcolon⟩ := (cutLast?_eq_some_iff divides_colon).mp hcut
        exact ⟨htext, by simpa using ⟨hclosed, hcolon, huncut.mp hslash⟩, nofun⟩
      · next hslash =>
        obtain ⟨rfl, rfl⟩ := Prod.mk.inj heq
        refine ⟨(List.append_nil _).symm, nofun, fun _ before' after' hcut' => ?_⟩
        obtain ⟨-, rfl⟩ := Prod.mk.inj (Option.some.inj (hcut.symm.trans hcut'))
        exact mt huncut.mpr hslash
    · next hcut =>
      obtain ⟨rfl, rfl⟩ := Prod.mk.inj heq
      exact ⟨(List.append_nil _).symm, nofun, fun _ _ _ hcut' => nomatch hcut.symm.trans hcut'⟩
  · rintro ⟨rfl, htag, hnone⟩
    cases tag? with
    | none =>
      cases hcut : cutLast? ':' repository with
      | none => simp [splitTag, behind, hcut]
      | some cut =>
        have hslash := mt huncut.mp (hnone rfl cut.1 cut.2 hcut)
        simp only [splitTag, behind, Option.elim, List.append_nil, hcut, hslash]
        rfl
    | some tag =>
      obtain ⟨hclosed, hcolon, hslash⟩ := htag tag rfl
      have hcut : cutLast? ':' (repository ++ ':' :: tag) = some (repository, tag) :=
        (cutLast?_eq_some_iff divides_colon).mpr ⟨rfl, hclosed, hcolon⟩
      simp [splitTag, behind, hcut, huncut.mpr hslash]

/-! ## Reading as a whole -/

theorem cuts_eq (hdigest : splitDigest text = (name, digest?))
    (hregistry : splitRegistry name = (registry, path))
    (htag : splitTag path = (repository, tag?)) :
    cuts text = ⟨registry, repository, tag?, digest?⟩ := by
  simp only [cuts, hdigest, hregistry, htag]

theorem noHost_of_uncut (h : Uncut '/' path) : NoHost path := fun _ _ hcut =>
  nomatch (cutFirst?_eq_none_iff.mpr h).symm.trans hcut

theorem noHost_iff_of_cut {first rest : List Char} (h : cutFirst? '/' path = some (first, rest)) :
    NoHost path ↔ isHost first = false := by
  simp [NoHost, h]

/-- **A tag brings no host** before the first slash of a path, and hides none. -/
theorem noHost_append_behind (htag : ∀ tag ∈ tag?, Closed repository ∧ Uncut '/' tag) :
    NoHost (repository ++ behind ':' tag?) ↔ NoHost repository := by
  cases tag? with
  | none => simp [behind]
  | some tag =>
    obtain ⟨hclosed, hslash⟩ := htag tag rfl
    cases hcut : cutFirst? '/' repository with
    | none =>
      have hrepository := cutFirst?_eq_none_iff.mp hcut
      have hpath : Uncut '/' (repository ++ ':' :: tag) :=
        (uncut_append_cons_iff divides_colon hclosed (by decide)).mpr ⟨hrepository, hslash⟩
      exact iff_of_true (noHost_of_uncut hpath) (noHost_of_uncut hrepository)
    | some cut =>
      obtain ⟨first, rest⟩ := cut
      obtain ⟨rfl, hfirst⟩ := (cutFirst?_eq_some_iff divides_slash).mp hcut
      have hpath : cutFirst? '/' (first ++ '/' :: rest ++ ':' :: tag) =
          some (first, rest ++ ':' :: tag) :=
        (cutFirst?_eq_some_iff divides_slash).mpr ⟨by simp, hfirst⟩
      exact (noHost_iff_of_cut hpath).trans (noHost_iff_of_cut hcut).symm

/-- **Nothing is lost by reading**, and the parts are read as they stand. -/
theorem sound_cuts (h : Closed text) : (cuts text).chars = text ∧ (cuts text).Sound := by
  obtain ⟨⟨name, digest?⟩, hdigest⟩ : ∃ parts, splitDigest text = parts := ⟨_, rfl⟩
  obtain ⟨⟨registry, path⟩, hregistry⟩ : ∃ parts, splitRegistry name = parts := ⟨_, rfl⟩
  obtain ⟨⟨repository, tag?⟩, htag⟩ : ∃ parts, splitTag path = parts := ⟨_, rfl⟩
  rw [cuts_eq hdigest hregistry htag]
  obtain ⟨rfl, hname, hat⟩ := (splitDigest_eq_iff h).mp hdigest
  obtain ⟨rfl, hhost, hnone⟩ := splitRegistry_eq_iff.mp hregistry
  obtain ⟨rfl, hparts, hnoTag⟩ := splitTag_eq_iff.mp htag
  have hwhole : Whole ['@'] (ahead '/' registry ++ (repository ++ behind ':' tag?)) :=
    ⟨hname, List.forall_mem_singleton.mpr hat⟩
  rw [whole_ahead_append_iff divides_slash (fun host hmem => (hhost host hmem).2.1) (by decide),
    whole_append_behind_iff divides_colon (fun tag hmem => (hparts tag hmem).1) (by decide)]
    at hwhole
  obtain ⟨hregistryWhole, hrepository, htagWhole⟩ := hwhole
  have hnoHost : NoHost (repository ++ behind ':' tag?) ↔ NoHost repository :=
    noHost_append_behind fun tag hmem => ⟨(hparts tag hmem).1, (hparts tag hmem).2.2⟩
  refine ⟨by simp [Cuts.chars, Cuts.front], ?_, hrepository, ?_, ?_, hnoHost.mp ∘ hnone, hnoTag⟩
  · intro host hmem
    obtain ⟨hishost, -, hslash⟩ := hhost host hmem
    exact ⟨hishost, whole_cons_iff.mpr ⟨hslash, hregistryWhole host hmem⟩⟩
  · intro tag hmem
    obtain ⟨-, hcolon, hslash⟩ := hparts tag hmem
    exact whole_cons_iff.mpr ⟨hcolon, whole_cons_iff.mpr ⟨hslash, htagWhole tag hmem⟩⟩
  · have hclosed : Whole [] (ahead '/' registry ++ (repository ++ behind ':' tag?) ++
        behind '@' digest?) := whole_nil_iff.mpr h
    exact ((whole_append_behind_iff divides_at (fun _ _ => hname) (by decide)).mp hclosed).2

/-- **Parts that are read as they stand** are found in the text that has them. -/
theorem cuts_chars {parts : Cuts} (h : parts.Sound) : cuts parts.chars = parts := by
  obtain ⟨hregistry, hrepository, htag, hdigest, hnoHost, hnoTag⟩ := h
  obtain ⟨registry, repository, tag?, digest?⟩ := parts
  have hregistryAt : ∀ host ∈ registry, Whole ['@'] host := fun host hmem =>
    (whole_cons_iff.mp (hregistry host hmem).2).2
  have htagAt : ∀ tag ∈ tag?, Uncut ':' tag ∧ Uncut '/' tag ∧ Whole ['@'] tag := fun tag hmem => by
    simpa only [whole_cons_iff, and_assoc] using htag tag hmem
  have hname : Whole ['@'] (ahead '/' registry ++ (repository ++ behind ':' tag?)) := by
    rw [whole_ahead_append_iff divides_slash (fun host hmem => (hregistryAt host hmem).closed)
        (by decide),
      whole_append_behind_iff divides_colon (fun _ _ => hrepository.closed) (by decide)]
    exact ⟨hregistryAt, hrepository, fun tag hmem => (htagAt tag hmem).2.2⟩
  have htext : Whole [] (ahead '/' registry ++ (repository ++ behind ':' tag?) ++
      behind '@' digest?) :=
    (whole_append_behind_iff divides_at (fun _ _ => hname.closed) (by decide)).mpr
      ⟨whole_nil_iff.mpr hname.closed, hdigest⟩
  have hchars : Cuts.chars ⟨registry, repository, tag?, digest?⟩ =
      ahead '/' registry ++ (repository ++ behind ':' tag?) ++ behind '@' digest? := by
    simp [Cuts.chars, Cuts.front]
  have hat : Uncut '@' (ahead '/' registry ++ (repository ++ behind ':' tag?)) :=
    hname.uncut _ (by decide)
  rw [hchars]
  refine cuts_eq ((splitDigest_eq_iff htext.closed).mpr ⟨rfl, hname.closed, hat⟩)
    (splitRegistry_eq_iff.mpr ⟨rfl, fun host hmem => ?_, fun hnone => ?_⟩)
    (splitTag_eq_iff.mpr ⟨rfl, fun tag hmem => ?_, hnoTag⟩)
  · obtain ⟨hishost, hhost⟩ := hregistry host hmem
    exact ⟨hishost, hhost.closed, hhost.uncut _ (by decide)⟩
  · exact (noHost_append_behind fun tag hmem =>
      ⟨hrepository.closed, (htagAt tag hmem).2.1⟩).mpr (hnoHost hnone)
  · exact ⟨hrepository.closed, (htagAt tag hmem).1, (htagAt tag hmem).2.1⟩

/-! ## The normal form -/

/-- The parts with the tag filled in and an empty digest left out. -/
def Cuts.full (parts : Cuts) : Cuts where
  registry := parts.registry
  repository := parts.repository
  tag := some ((nonempty? parts.tag).getD defaultTag).toList
  digest := (nonempty? parts.digest).map String.toList

theorem nonempty?_eq_some_iff {text : String} :
    nonempty? part = some text ↔ part = some text.toList ∧ text ≠ "" := by
  constructor
  · intro h
    match part, h with
    | some (c :: cs), h =>
      obtain rfl := Option.some.inj h
      exact ⟨congrArg some String.toList_ofList.symm, by simp⟩
  · rintro ⟨rfl, hne⟩
    obtain ⟨c, cs, hchars⟩ := List.exists_cons_of_ne_nil (mt String.toList_eq_nil_iff.mp hne)
    rw [hchars, nonempty?, ← hchars, String.ofList_toList]

/-- A tag is filled in where there is none. -/
theorem getD_nonempty?_ne_empty : (nonempty? part).getD defaultTag ≠ "" := by
  cases htag : nonempty? part with
  | none => decide
  | some tag => exact (nonempty?_eq_some_iff.mp htag).2

/-- **Filling in the tag moves no cut.** -/
theorem Cuts.Sound.full {parts : Cuts} (h : parts.Sound) : parts.full.Sound where
  registry := h.registry
  repository := h.repository
  noHost := h.noHost
  noTag := nofun
  tag tag hmem := by
    obtain rfl := Option.some.inj hmem
    cases htag : nonempty? parts.tag with
    | none => exact whole_plain (by decide) (by simp [defaultTag])
    | some text => exact h.tag _ (nonempty?_eq_some_iff.mp htag).1
  digest digest hmem := by
    obtain ⟨text, htext, rfl⟩ := Option.map_eq_some_iff.mp hmem
    exact h.digest _ (nonempty?_eq_some_iff.mp htext).1

/-- The full parts have the same meaning. -/
theorem image_full (raw : String) (parts : Cuts) : parts.full.image raw = parts.image raw := by
  have htag : nonempty? parts.full.tag = some ((nonempty? parts.tag).getD defaultTag) :=
    nonempty?_eq_some_iff.mpr ⟨rfl, getD_nonempty?_ne_empty⟩
  have hdigest : nonempty? parts.full.digest = nonempty? parts.digest := by
    cases hdigest : nonempty? parts.digest with
    | none => simp only [Cuts.full, hdigest]; rfl
    | some digest =>
      exact nonempty?_eq_some_iff.mpr ⟨by simp only [Cuts.full, hdigest]; rfl,
        (nonempty?_eq_some_iff.mp hdigest).2⟩
  simp only [Cuts.image, htag, hdigest]
  rfl

/-- The registry and the repository as they are written. -/
def front (image : Image) : String :=
  (image.registry.elim "" (· ++ "/")) ++ image.repository

theorem written_eq (image : Image) : image.written =
    image.front ++ ":" ++ image.tag ++ image.digest.elim "" ("@" ++ ·) := by
  rw [written, front]
  cases image.registry <;> cases image.digest <;> rfl

theorem front_image (raw : String) (parts : Cuts) :
    (parts.image raw).front = String.ofList parts.front := by
  cases hregistry : parts.registry <;>
    simp [front, Cuts.image, Cuts.front, ahead, hregistry, String.append_assoc]

theorem Cuts.front_full (parts : Cuts) : parts.full.front = parts.front := rfl

/-- **What is written** has the full parts. -/
theorem written_image (raw : String) (parts : Cuts) :
    (parts.image raw).written = String.ofList parts.full.chars := by
  rw [written_eq, front_image, Cuts.chars, Cuts.front_full]
  cases hdigest : nonempty? parts.digest <;>
    simp [Cuts.image, Cuts.full, hdigest, behind, String.append_assoc]

/-! ## What writing changes -/

/-- A tag as it stands in a text, with its colon, and the tag that it is read as. -/
inductive ReadsTag : String → String → Prop
  /-- No tag is written. -/
  | absent : ReadsTag "" defaultTag
  /-- Nothing follows the colon. -/
  | empty : ReadsTag ":" defaultTag
  | given {tag : String} (hne : tag ≠ "") : ReadsTag (":" ++ tag) tag

/-- A digest as it stands in a text, with its at sign, and what it is read as. -/
inductive ReadsDigest : String → Option String → Prop
  /-- No digest is written. -/
  | absent : ReadsDigest "" none
  /-- Nothing follows the at sign. -/
  | empty : ReadsDigest "@" none
  | given {digest : String} (hne : digest ≠ "") : ReadsDigest ("@" ++ digest) (some digest)

theorem readsTag (part : Option (List Char)) :
    ReadsTag (String.ofList (behind ':' part)) ((nonempty? part).getD defaultTag) := by
  match part with
  | none => exact .absent
  | some [] => exact .empty
  | some (c :: cs) =>
    have hgiven : ReadsTag (":" ++ String.ofList (c :: cs)) (String.ofList (c :: cs)) :=
      .given (by simp)
    simpa [behind, nonempty?] using hgiven

theorem readsDigest (part : Option (List Char)) :
    ReadsDigest (String.ofList (behind '@' part)) (nonempty? part) := by
  match part with
  | none => exact .absent
  | some [] => exact .empty
  | some (c :: cs) =>
    have hgiven : ReadsDigest ("@" ++ String.ofList (c :: cs)) (some (String.ofList (c :: cs))) :=
      .given (by simp)
    simpa [behind, nonempty?] using hgiven

/-- What is written has no character that was not read, but those of a tag that is filled in. -/
theorem mem_chars_full {parts : Cuts} {c : Char} (h : c ∈ parts.full.chars) :
    c ∈ parts.chars ∨ c ∈ ':' :: defaultTag.toList := by
  simp only [Cuts.chars, List.mem_append] at h ⊢
  rcases h with (hfront | htag) | hdigest
  · exact .inl (.inl (.inl hfront))
  · cases hpart : nonempty? parts.tag with
    | none => exact .inr (by simpa [Cuts.full, behind, hpart] using htag)
    | some tag =>
      rw [(nonempty?_eq_some_iff.mp hpart).1]
      exact .inl (.inl (.inr (by simpa [Cuts.full, behind, hpart] using htag)))
  · cases hpart : nonempty? parts.digest with
    | none => simp [Cuts.full, behind, hpart] at hdigest
    | some digest =>
      rw [(nonempty?_eq_some_iff.mp hpart).1]
      exact .inl (.inr (by simpa [Cuts.full, behind, hpart] using hdigest))

/-- **The normal form of an image reference is stable.** For every text without blanks that closes
its groups, the image that is read is written as a text that is read as the same image. The two
texts differ only behind the registry and the repository: a tag that was left out or left empty is
`latest` in the second, and an at sign without a digest is gone. -/
theorem parse_written (raw : String) (hblank : ∀ c ∈ raw.toList, Text.isBlank c = false)
    (hclosed : Closed raw.toList) :
    parse (parse raw).written = { parse raw with raw := (parse raw).written } ∧
      ∃ tag digest, ReadsTag tag (parse raw).tag ∧ ReadsDigest digest (parse raw).digest ∧
        raw = (parse raw).front ++ tag ++ digest ∧
        (parse raw).written = (parse raw).front ++ ":" ++ (parse raw).tag ++
          (parse raw).digest.elim "" ("@" ++ ·) := by
  have htrim : ∀ {cs : List Char}, (∀ c ∈ cs, Text.isBlank c = false) → Text.trim cs = cs :=
    fun h => Text.trim_eq_self (fun c hc => h c (List.mem_of_mem_head? hc))
      fun c hc => h c (List.mem_of_mem_getLast? hc)
  obtain ⟨hchars, hsound⟩ := sound_cuts hclosed
  have hparse : parse raw = (cuts raw.toList).image raw := by rw [parse_eq_image, htrim hblank]
  generalize cuts raw.toList = parts at hchars hsound hparse
  rw [hparse]
  refine ⟨?_, _, _, readsTag parts.tag, readsDigest parts.digest, ?_, written_eq _⟩
  · have hlatest : ∀ c ∈ ':' :: defaultTag.toList, Text.isBlank c = false := by
      simp [defaultTag, Text.isBlank]
    have hwritten : ∀ c ∈ parts.full.chars, Text.isBlank c = false := fun c hc =>
      (mem_chars_full hc).elim (fun h => hblank c (hchars ▸ h)) (hlatest c)
    rw [parse_eq_image, written_image, String.toList_ofList, htrim hwritten, cuts_chars hsound.full,
      image_full]
    rfl
  · rw [front_image, ← String.ofList_append, ← String.ofList_append, ← Cuts.chars, hchars,
      String.ofList_toList]

/-- The separators in the group take nothing apart. -/
theorem parse_written_group :
    parse "ghcr.io/$\x7bORG:-a/b:c@d\x7d/api:latest" =
      ⟨"ghcr.io/$\x7bORG:-a/b:c@d\x7d/api:latest", some "ghcr.io", "$\x7bORG:-a/b:c@d\x7d/api",
        "latest", none⟩ :=
  (parse_written "ghcr.io/$\x7bORG:-a/b:c@d\x7d/api:@" (by simp [Text.isBlank]) (by decide)).1

end Image

end ComposeLint
