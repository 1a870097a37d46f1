import ComposeLint.Proofs.ServiceItems
import ComposeLint.Proofs.Splitting
import ComposeLint.Proofs.Trust

/-!
# Registries that are not trusted

A host is a list of labels with points between them (`labels`). A registry is trusted if the labels
of a trusted entry are the last ones of its own: then it is the trusted host or lies below it, and
that its text ends with a trusted name is not enough (`labels_suffix_iff`, `not_labels_suffix`). The
rule on registries has a hit on a service exactly if its image names one that can be judged and is
not trusted (`Rule.findsUntrusted_of_readsAs`).
-/

namespace ComposeLint

open Check

/-! ## Labels -/

/-- The labels of a host, between its points. -/
def labels (host : List Char) : List (List Char) := host.splitOn '.'

variable {host trusted : List Char}

/-- **Labels are the last ones of a host** if it is the host of these labels or lies below it. -/
theorem labels_suffix_iff :
    labels trusted <:+ labels host ↔ host = trusted ∨ ∃ sub, host = sub ++ '.' :: trusted := by
  constructor
  · rintro ⟨before, hbefore⟩
    have hhost : ['.'].intercalate (before ++ labels trusted) = host := by
      rw [hbefore, labels, List.intercalate_splitOn]
    have htrusted : ['.'].intercalate (labels trusted) = trusted := List.intercalate_splitOn '.'
    by_cases hnil : before = []
    · subst hnil
      exact .inl (hhost.symm.trans htrusted)
    · obtain ⟨first, rest, hlabels⟩ :=
        List.exists_cons_of_ne_nil (List.splitOn_ne_nil '.' trusted)
      rw [labels, hlabels, Text.intercalate_append_cons '.' hnil, ← hlabels, ← labels,
        htrusted] at hhost
      exact .inr ⟨_, hhost.symm⟩
  · rintro (rfl | ⟨sub, rfl⟩)
    · exact List.suffix_rfl
    · rw [labels, labels, List.splitOn_append_cons_self]
      exact List.suffix_append _ _

/-- **To end with a trusted name is not enough.** -/
theorem not_labels_suffix {before : List Char} {c : Char} (hc : c ≠ '.')
    (hhost : host = before ++ c :: trusted) : ¬ labels trusted <:+ labels host := by
  rw [labels_suffix_iff, hhost]
  rintro (hsame | ⟨sub, hsub⟩)
  · have hlength := congrArg List.length hsame
    simp only [List.length_append, List.length_cons] at hlength
    omega
  · obtain ⟨-, hcons⟩ := List.append_inj' hsub rfl
    exact hc (List.cons.inj hcons).1

theorem covers_iff : Covers trusted host ↔ labels trusted <:+ labels host := by
  rw [labels_suffix_iff, Covers]
  exact or_congr_right (exists_congr fun _ => eq_comm)

/-! ## What is found -/

theorem Check.text_eq_valid_iff {found : Option Tree} {raw : String} :
    Check.text found = .valid raw ↔ found = some (.text raw) := by
  have hmeets : Check.text found = .valid raw ↔ Accepts Check.text (· = raw) found :=
    Checked.meets_eq_iff.symm
  rw [hmeets, accepts_text_iff]
  simp

namespace Manifest

/-- Whether a service names an image. -/
def WritesImage (tree : Tree) (raw : String) : Prop :=
  ∃ fields, Tree.declared? (some tree) = some fields ∧
    fields.lookup "image" = some (.text raw)

/-- **The image of a service** is the one that it names, or it has none. -/
theorem image_eq_of_readsAs {name : String} {tree : Tree} {service : Service}
    (hread : ReadsAs name tree service) :
    (∀ raw, WritesImage tree raw → service.image = some (Image.parse raw)) ∧
      ((∀ raw, ¬ WritesImage tree raw) → service.image = none) := by
  obtain ⟨fields, written, hfields, hwritten, himage, -⟩ := image_of_readsAs hread
  constructor
  · rintro raw ⟨fields', hfields', hraw⟩
    obtain rfl := Option.some.inj (hfields.symm.trans hfields')
    rw [hraw] at hwritten
    cases hwritten
    exact himage
  · intro hnone
    rcases eq_none_or_of_nullish hwritten with ⟨rfl, -⟩ | ⟨raw, rfl, hraw⟩
    · exact himage
    · exact absurd ⟨fields, hfields, text_eq_valid_iff.mp hraw⟩ (hnone raw)

end Manifest

namespace Rule

variable {context : RuleContext} {tables : RuleTables} {name raw registry : String} {tree : Tree}
  {service : Service}

/-- Whether an image comes from a registry that can be judged and is not trusted. -/
structure IsUntrusted (tables : RuleTables) (raw registry : String) : Prop where
  named : (Image.parse raw).registry = some registry
  judged : '$' ∉ registry.toList
  strange : ∀ trusted ∈ tables.trustedRegistries,
    ¬ labels trusted.toList <:+ labels (Text.lower registry.toList)

/-- The hit on a registry. -/
def registryHit (service : Service) (registry : String) : Hit :=
  ⟨.medium, about service ("uses image from potentially untrusted registry: " ++ registry)⟩

/-- What is found of the registry of a service. -/
structure FindsUntrusted (context : RuleContext) (tree : Tree) (service : Service) : Prop where
  reported : ∀ raw registry, Manifest.WritesImage tree raw →
    IsUntrusted context.tables raw registry →
      untrustedRegistry.hits? context service = some [registryHit service registry]
  accepted : (∀ raw registry, Manifest.WritesImage tree raw →
    ¬ IsUntrusted context.tables raw registry) →
      untrustedRegistry.hits? context service = some []

theorem isTrusted_iff_labels : isTrusted tables registry = true ↔
    ∃ trusted ∈ tables.trustedRegistries,
      labels trusted.toList <:+ labels (Text.lower registry.toList) := by
  simp only [isTrusted_iff, covers_iff]

theorem isUntrusted_iff (h : (Image.parse raw).registry = some registry) :
    IsUntrusted tables raw registry ↔
      (!registry.toList.contains '$' && !isTrusted tables registry) = true := by
  simp only [Bool.and_eq_true, Bool.not_eq_true', Bool.eq_false_iff, ne_eq, isTrusted_iff_labels,
    List.contains_iff_mem, not_exists, not_and]
  exact ⟨fun huntrusted => ⟨huntrusted.judged, huntrusted.strange⟩, fun ⟨hjudged, hstrange⟩ =>
    ⟨h, hjudged, hstrange⟩⟩

theorem hits?_of_registry (h : service.image.bind (·.registry) = some registry) :
    untrustedRegistry.hits? context service =
      some (if !registry.toList.contains '$' && !isTrusted context.tables registry
        then [registryHit service registry] else []) := by
  simp only [untrustedRegistry, hits?, perService, h]
  rfl

theorem hits?_of_no_registry (h : service.image.bind (·.registry) = none) :
    untrustedRegistry.hits? context service = some [] := by
  simp only [untrustedRegistry, hits?, perService, h]
  rfl

/-- **Registries that are not trusted are found as they are written.** A service has a hit exactly
if its image names a registry that holds no dollar and whose labels do not end with those of a
trusted entry. So what is trusted is a trusted host or lies below one, and no look-alike is. -/
theorem findsUntrusted_of_readsAs (hread : Manifest.ReadsAs name tree service) :
    FindsUntrusted context tree service ∧
    ∀ host trusted : List Char,
      (labels trusted <:+ labels host ↔ host = trusted ∨ ∃ sub, host = sub ++ '.' :: trusted) ∧
      ∀ before c, c ≠ '.' → host = before ++ c :: trusted → ¬ labels trusted <:+ labels host := by
  refine ⟨⟨fun raw registry hraw huntrusted => ?_, fun hnone => ?_⟩, fun host trusted =>
    ⟨labels_suffix_iff, fun before c => not_labels_suffix⟩⟩
  · have himage := (Manifest.image_eq_of_readsAs hread).1 raw hraw
    have hregistry : service.image.bind (·.registry) = some registry := by
      rw [himage, Option.bind_some, huntrusted.named]
    rw [hits?_of_registry hregistry, if_pos ((isUntrusted_iff huntrusted.named).mp huntrusted)]
  · cases hregistry : service.image.bind (·.registry) with
    | none => exact hits?_of_no_registry hregistry
    | some registry =>
      obtain ⟨image, himage, hnamed⟩ := Option.bind_eq_some_iff.mp hregistry
      obtain ⟨raw, hraw⟩ : ∃ raw, Manifest.WritesImage tree raw := by
        by_contra hno
        rw [(Manifest.image_eq_of_readsAs hread).2 (not_exists.mp hno)] at himage
        cases himage
      rw [(Manifest.image_eq_of_readsAs hread).1 raw hraw, Option.some.injEq] at himage
      subst himage
      rw [hits?_of_registry hregistry, if_neg (mt (isUntrusted_iff hnamed).mpr (hnone raw _ hraw))]

/-- A service that names an image, as a tree. -/
def pulling (raw : String) : Tree := .mapping [("image", .text raw)]

/-- The service that is read of it. -/
def puller (raw : String) : Service where
  name := "web"
  image := some (Image.parse raw)

/-- A host that ends with a trusted name is found, and one below a trusted host is not. -/
theorem findsUntrusted_lookalike :
    Manifest.ReadsAs "web" (pulling "Evil-docker.io/app:1") (puller "Evil-docker.io/app:1") ∧
    FindsUntrusted ⟨.empty "compose.yml", .standard⟩ (pulling "Evil-docker.io/app:1")
      (puller "Evil-docker.io/app:1") ∧
    untrustedRegistry.hits? ⟨.empty "compose.yml", .standard⟩ (puller "Evil-docker.io/app:1") =
      some [⟨.medium,
        "Service 'web' uses image from potentially untrusted registry: Evil-docker.io"⟩] ∧
    ¬ labels "docker.io".toList <:+ labels "evil-docker.io".toList ∧
    FindsUntrusted ⟨.empty "compose.yml", .standard⟩ (pulling "mirror.GHCR.io/app:1")
      (puller "mirror.GHCR.io/app:1") ∧
    untrustedRegistry.hits? ⟨.empty "compose.yml", .standard⟩ (puller "mirror.GHCR.io/app:1") =
      some [] := by
  have hevil : Manifest.ReadsAs "web" (pulling "Evil-docker.io/app:1")
      (puller "Evil-docker.io/app:1") := ⟨_, rfl, rfl⟩
  have hmirror : Manifest.ReadsAs "web" (pulling "mirror.GHCR.io/app:1")
      (puller "mirror.GHCR.io/app:1") := ⟨_, rfl, rfl⟩
  obtain ⟨hfinds, hlabels⟩ := findsUntrusted_of_readsAs hevil
  exact ⟨hevil, hfinds, by decide +kernel,
    (hlabels _ _).2 "evil".toList '-' (by decide) rfl,
    (findsUntrusted_of_readsAs hmirror).1, by decide +kernel⟩

end Rule

end ComposeLint
