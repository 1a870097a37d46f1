import ComposeLint.Image
import ComposeLint.Proofs.Substitution

/-!
# Reading an image reference that was written

`WrittenImage` is an image before it is written: a repository, and a registry, a tag and a digest
that may be left out, each a text that the separators around it cannot cut. `WrittenImage.chars`
writes it and `WrittenImage.meaning` says what it means. Reading takes the digest off at the first
at sign, the registry at the first slash and the tag at the last colon, in this order, and each
step finds what was written (`splitDigest_chars`, `splitRegistry_name`, `splitTag_path`).
-/

namespace ComposeLint

open Substitution

/-! ## Parts -/

/-- A text without blanks that has none of some characters. -/
structure PartText (excluded : List Char) where
  chars : List Char
  ne_nil : chars ≠ []
  ordinary : ∀ c ∈ chars, Text.isBlank c = false ∧ c ∉ excluded

namespace PartText

variable {excluded : List Char} {c : Char}

/-- A text that has been tested. -/
def ofTested (text : String) (hne : text ≠ "")
    (h : text.toList.all (fun c => !Text.isBlank c && !excluded.contains c) = true) :
    PartText excluded where
  chars := text.toList
  ne_nil := by simpa using hne
  ordinary := by simpa using h

theorem not_mem (part : PartText excluded) (h : c ∈ excluded) : c ∉ part.chars :=
  fun hmem => (part.ordinary c hmem).2 h

/-- A character that a part may not have does not cut it. -/
theorem solid (part : PartText excluded) (hdollar : '$' ∈ excluded) (h : c ∈ excluded) :
    Solid c part.chars :=
  solid_plain (part.not_mem hdollar) (part.not_mem h)

end PartText

/-- The host that serves an image, with its port. -/
structure RegistryText extends PartText ['/', '@', '$'] where
  isHost : '.' ∈ chars ∨ ':' ∈ chars ∨ chars = "localhost".toList

/-- An image reference that is to be written. -/
structure WrittenImage where
  registry : Option RegistryText
  repository : PartText [':', '@', '$']
  tag : Option (PartText [':', '/', '@', '$'])
  digest : Option (PartText [])
  /-- What stands before the first slash of a repository would be a registry. -/
  namespaced : registry = none → ∀ first rest, repository.chars = first ++ '/' :: rest →
    '/' ∉ first → '.' ∉ first ∧ first ≠ "localhost".toList

namespace Image

theorem isHost_iff {segment : List Char} :
    isHost segment = true ↔ '.' ∈ segment ∨ ':' ∈ segment ∨ segment = "localhost".toList := by
  simp [isHost, or_assoc]

end Image

namespace WrittenImage

/-- The tag as it is written, with its colon. -/
def tagChars (reference : WrittenImage) : List Char :=
  (reference.tag.map fun tag => ':' :: tag.chars).getD []

/-- The digest as it is written, with its at sign. -/
def digestChars (reference : WrittenImage) : List Char :=
  (reference.digest.map fun digest => '@' :: digest.chars).getD []

/-- The registry as it is written, with its slash. -/
def registryChars (reference : WrittenImage) : List Char :=
  (reference.registry.map fun registry => registry.chars ++ ['/']).getD []

/-- The repository and the tag. -/
def path (reference : WrittenImage) : List Char := reference.repository.chars ++ reference.tagChars

/-- All but the digest. -/
def name (reference : WrittenImage) : List Char := reference.registryChars ++ reference.path

/-- The reference as it is written: `[registry/]repository[:tag][@digest]`. -/
def chars (reference : WrittenImage) : List Char := reference.name ++ reference.digestChars

/-- What the reference means. -/
def meaning (reference : WrittenImage) : Image where
  raw := String.ofList reference.chars
  registry := reference.registry.map (String.ofList ·.chars)
  repository := String.ofList reference.repository.chars
  tag := (reference.tag.map (String.ofList ·.chars)).getD Image.defaultTag
  digest := reference.digest.map (String.ofList ·.chars)

end WrittenImage

/-! ## What the separators find -/

/-- An optional part has what the part has. -/
theorem forall_mem_getD_map {α β : Type} {P : β → Prop} {f : α → List β} {part : Option α}
    (h : ∀ a, ∀ b ∈ f a, P b) : ∀ b ∈ (part.map f).getD [], P b := by
  cases part with
  | none => exact List.forall_mem_nil P
  | some a => exact h a

namespace WrittenImage

variable (reference : WrittenImage)

/-- All but the digest can hold no at sign. -/
theorem ordinary_path : ∀ c ∈ reference.path, Text.isBlank c = false ∧ c ∉ ['@', '$'] := by
  refine List.forall_mem_append.mpr ⟨fun c hc => ?_, forall_mem_getD_map fun tag => ?_⟩
  · obtain ⟨hblank, hexcluded⟩ := reference.repository.ordinary c hc
    exact ⟨hblank, fun hmem => hexcluded (List.mem_cons_of_mem _ hmem)⟩
  · refine List.forall_mem_cons.mpr ⟨by decide, fun c hc => ?_⟩
    obtain ⟨hblank, hexcluded⟩ := tag.ordinary c hc
    exact ⟨hblank, fun hmem => hexcluded (List.mem_cons_of_mem _ (List.mem_cons_of_mem _ hmem))⟩

theorem ordinary_name : ∀ c ∈ reference.name, Text.isBlank c = false ∧ c ∉ ['@', '$'] := by
  refine List.forall_mem_append.mpr
    ⟨forall_mem_getD_map fun registry => ?_, reference.ordinary_path⟩
  refine List.forall_mem_append.mpr ⟨fun c hc => ?_, List.forall_mem_singleton.mpr (by decide)⟩
  obtain ⟨hblank, hexcluded⟩ := registry.ordinary c hc
  exact ⟨hblank, fun hmem => hexcluded (List.mem_cons_of_mem _ hmem)⟩

theorem not_isBlank_chars : ∀ c ∈ reference.chars, Text.isBlank c = false := by
  refine List.forall_mem_append.mpr
    ⟨fun c hc => (reference.ordinary_name c hc).1, forall_mem_getD_map fun digest => ?_⟩
  exact List.forall_mem_cons.mpr ⟨by decide, fun c hc => (digest.ordinary c hc).1⟩

/-- A tag brings no slash into the path. -/
theorem slash_not_mem_tagChars : '/' ∉ reference.tagChars := fun hmem =>
  forall_mem_getD_map (P := (· ≠ '/'))
    (fun tag => List.forall_mem_cons.mpr
      ⟨by decide, fun _ hc heq => tag.not_mem (by decide) (heq ▸ hc)⟩) _ hmem rfl

end WrittenImage

namespace Image

variable (reference : WrittenImage)

/-- **The digest is found** after the first at sign, whatever it holds. -/
theorem splitDigest_chars :
    splitDigest reference.chars = (reference.name, reference.digest.map (·.chars)) := by
  have hname : Solid '@' reference.name :=
    solid_plain (fun hmem => (reference.ordinary_name _ hmem).2 (by decide))
      fun hmem => (reference.ordinary_name _ hmem).2 (by decide)
  rw [WrittenImage.chars, WrittenImage.digestChars]
  cases reference.digest with
  | none =>
    have hcut := cutFirst?_of_uncut hname.uncut
    simp [splitDigest, hcut]
  | some digest =>
    have hcut := cutFirst?_append_sep separates_at hname digest.chars
    simp [splitDigest, hcut]

/-- **The registry is found** before the first slash, and no namespace is taken for one. -/
theorem splitRegistry_name :
    splitRegistry reference.name = (reference.registry.map (·.chars), reference.path) := by
  have hrepository : '$' ∉ reference.repository.chars := reference.repository.not_mem (by decide)
  have hdollar : '$' ∉ reference.path := fun hmem => (reference.ordinary_path _ hmem).2 (by decide)
  rw [WrittenImage.name, WrittenImage.registryChars]
  cases hregistry : reference.registry with
  | some registry =>
    have hcut := cutFirst?_append_sep separates_slash
      (registry.solid (by decide) (by decide)) reference.path
    simp [splitRegistry, hcut, isHost_iff.mpr registry.isHost]
  | none =>
    rw [Option.map_none, Option.getD_none, List.nil_append, Option.map_none]
    by_cases hslash : '/' ∈ reference.repository.chars
    -- What stands before the first slash is the first segment of the repository, and no host.
    · obtain ⟨first, rest, hchars, hfirst⟩ := List.eq_append_cons_of_mem hslash
      obtain ⟨hpoint, hlocalhost⟩ := reference.namespaced hregistry first rest hchars hfirst
      have hmem : ∀ {c}, c ∈ first → c ∈ reference.repository.chars := fun hc => by
        rw [hchars]
        exact List.mem_append_left _ hc
      have hcolon : ':' ∉ first := fun hc => reference.repository.not_mem (by decide) (hmem hc)
      have hhost : isHost first = false :=
        Bool.eq_false_iff.mpr fun h => by simp_all [isHost_iff]
      have hcut := cutFirst?_append_sep separates_slash
        (solid_plain (fun hc => hrepository (hmem hc)) hfirst) (rest ++ reference.tagChars)
      rw [← List.cons_append, ← List.append_assoc, ← hchars] at hcut
      simp only [splitRegistry, WrittenImage.path, hcut, hhost, Bool.false_eq_true, if_false]
    · have hpath : '/' ∉ reference.path :=
        List.not_mem_append hslash reference.slash_not_mem_tagChars
      simp [splitRegistry, cutFirst?_of_uncut (uncut_plain hdollar hpath)]

/-- **The tag is found** after the last colon, which no slash follows. -/
theorem splitTag_path :
    splitTag reference.path = (reference.repository.chars, reference.tag.map (·.chars)) := by
  have hrepository : Solid ':' reference.repository.chars :=
    reference.repository.solid (by decide) (by decide)
  rw [WrittenImage.path, WrittenImage.tagChars]
  cases reference.tag with
  | none => simp [splitTag, cutLast?_of_uncut hrepository.uncut]
  | some tag =>
    have hcut := cutLast?_append_sep separates_colon hrepository.balanced
      (tag.solid (c := ':') (by decide) (by decide)).uncut
    have hslash := Text.cutFirst?_eq_none (tag.solid (c := '/') (by decide) (by decide)).uncut
    simp [splitTag, hcut, hslash]

/-- A part that is written is not empty. -/
theorem nonempty?_map {excluded : List Char} (part : Option (PartText excluded)) :
    nonempty? (part.map (·.chars)) = part.map (String.ofList ·.chars) := by
  cases part with
  | none => rfl
  | some part =>
    obtain ⟨c, cs, hchars⟩ := List.exists_cons_of_ne_nil part.ne_nil
    simp [nonempty?, hchars]

/-- **Reading undoes writing.** A reference is read as the registry, the repository, the tag and
the digest that it was written from: each optional part is there exactly when it was written, and
`latest` stands in for the tag that was not. -/
theorem parse_chars : parse (String.ofList reference.chars) = reference.meaning := by
  have htrim : Text.trim reference.chars = reference.chars :=
    Text.trim_eq_self (fun c hc => reference.not_isBlank_chars c (List.mem_of_mem_head? hc))
      fun c hc => reference.not_isBlank_chars c (List.mem_of_mem_getLast? hc)
  rw [parse, String.toList_ofList, htrim, splitDigest_chars]
  simp only [splitRegistry_name, splitTag_path, nonempty?_map, Option.map_map]
  rfl

/-- A reference with all of its parts. Its registry has a port, and its digest a colon. -/
def fullReference : WrittenImage where
  registry := some ⟨.ofTested "registry.local:5000" (by decide) (by decide), by decide⟩
  repository := .ofTested "team/app" (by decide) (by decide)
  tag := some (.ofTested "2.1" (by decide) (by decide))
  digest := some (.ofTested "sha256:ab12" (by decide) (by decide))
  namespaced := nofun

theorem parse_fullReference :
    parse "registry.local:5000/team/app:2.1@sha256:ab12" = fullReference.meaning :=
  parse_chars fullReference

/-- Without a registry a namespace stays in the repository. -/
example : parse "linuxserver/sonarr@sha256:ab12" =
    ⟨"linuxserver/sonarr@sha256:ab12", none, "linuxserver/sonarr", "latest",
      some "sha256:ab12"⟩ := by
  decide

end Image

end ComposeLint
