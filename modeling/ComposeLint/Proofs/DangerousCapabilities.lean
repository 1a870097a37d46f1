import ComposeLint.Proofs.Repetition
import ComposeLint.Proofs.ServiceItems
import ComposeLint.Proofs.SmallLetters
import Mathlib.Data.List.TakeWhile
import Mathlib.Logic.Relation

/-!
# Dangerous capabilities as they are written

A capability has one canonical name (`NamesCapability`), whatever the case of its letters, the
blanks around it and the prefix in front of it (`RespellsCapability`). The rule on dangerous
capabilities has one hit on each canonical name that the tables hold, in the order in which the
names first come. So a list has the same hits when its entries are respelled or repeated
(`Rule.findsCapabilities_of_readsAs`). The prefix has to stand directly in front of the name, behind
the blanks: blanks behind it are part of the name (`Rule.not_forall_prefixed`).
-/

namespace ComposeLint

open Check

/-! ## Trimming and capitals -/

namespace Text

variable {cs word : List Char}

theorem upperChar_toLower (c : Char) : upperChar c.toLower = upperChar c := by
  by_cases hascii : c.toNat < 0x80
  · exact forall_ascii (P := fun c => upperChar c.toLower = upperChar c) (by decide +kernel) hascii
  · rw [toLower_eq_self hascii]

theorem isBlank_toLower (c : Char) : isBlank c.toLower = isBlank c := by
  by_cases hascii : c.toNat < 0x80
  · exact forall_ascii (P := fun c => isBlank c.toLower = isBlank c) (by decide +kernel) hascii
  · rw [toLower_eq_self hascii]

theorem upper_map_toLower (cs : List Char) : upper (cs.map Char.toLower) = upper cs := by
  rw [upper, List.flatMap_map]
  exact List.flatMap_congr fun c _ => upperChar_toLower c

theorem upper_append (cs word : List Char) : upper (cs ++ word) = upper cs ++ upper word :=
  List.flatMap_append

theorem dropWhile_isBlank_map_toLower (cs : List Char) :
    (cs.map Char.toLower).dropWhile isBlank = (cs.dropWhile isBlank).map Char.toLower := by
  rw [List.dropWhile_map]
  exact congrArg (fun p => (cs.dropWhile p).map Char.toLower)
    (funext isBlank_toLower)

/-- **Trimming does not look at the case of letters.** -/
theorem trim_map_toLower (cs : List Char) :
    trim (cs.map Char.toLower) = (trim cs).map Char.toLower := by
  rw [trim, trimEnd, dropWhile_isBlank_map_toLower, ← List.map_reverse,
    dropWhile_isBlank_map_toLower, ← List.map_reverse, trim, trimEnd]

theorem trim_eq_trimEnd (h : ∀ c ∈ cs.head?, isBlank c = false) : trim cs = trimEnd cs := by
  cases cs with
  | nil => rfl
  | cons c cs => rw [trim, List.dropWhile_cons_of_neg (by simp [h c rfl])]

/-- **Blanks around a text are trimmed.** -/
theorem trim_append_blanks {before after : List Char} (hbefore : ∀ c ∈ before, isBlank c = true)
    (hafter : ∀ c ∈ after, isBlank c = true) (cs : List Char) :
    trim (before ++ cs ++ after) = trim cs := by
  have hend : ∀ text : List Char, trimEnd (text ++ after) = trimEnd text := by
    intro text
    rw [trimEnd, List.reverse_append, List.dropWhile_append_of_pos (by simpa using hafter), trimEnd]
  rw [trim, List.append_assoc, List.dropWhile_append_of_pos hbefore, List.dropWhile_append]
  split
  · next hnil =>
    rw [trim, List.isEmpty_iff.mp hnil, List.dropWhile_eq_nil_iff.mpr hafter]
  · rw [hend, trim]

/-- **Trimming goes on both sides of a word** without blanks. -/
theorem trim_append_word (hword : ∀ c ∈ word, isBlank c = false) (hne : word ≠ [])
    (before after : List Char) :
    trim (before ++ word ++ after) = before.dropWhile isBlank ++ word ++ trimEnd after := by
  obtain ⟨first, rest, rfl⟩ := List.exists_cons_of_ne_nil hne
  obtain ⟨others, last, hlast⟩ := (List.eq_nil_or_concat (first :: rest)).resolve_left hne
  rw [trim, List.append_assoc, List.cons_append,
    dropWhile_append_cons (hword first List.mem_cons_self), ← List.cons_append, hlast,
    List.concat_eq_append]
  have hreverse : (before.dropWhile isBlank ++ (others ++ [last] ++ after)).reverse =
      after.reverse ++ last :: (others.reverse ++ (before.dropWhile isBlank).reverse) := by simp
  rw [trimEnd, hreverse, dropWhile_append_cons (hword last (by simp [hlast])), trimEnd]
  simp

/-- **A prefix that is added behind the blanks** stands in front of the trimmed text. -/
theorem upper_trim_prefixed {blanks added : List Char} (hblanks : ∀ c ∈ blanks, isBlank c = true)
    (hcs : ∀ c ∈ cs.head?, isBlank c = false) (hadded : added.map Char.toLower = "cap_".toList) :
    upper (trim (blanks ++ added ++ cs)) = "CAP_".toList ++ upper (trim (blanks ++ cs)) := by
  have hword : ∀ c ∈ added, isBlank c = false := by
    intro c hc
    have hnone : ∀ d ∈ "cap_".toList, isBlank d = false := by simp [isBlank]
    rw [← isBlank_toLower c]
    exact hnone _ (hadded ▸ List.mem_map_of_mem hc)
  have hne : added ≠ [] := by
    rintro rfl
    cases hadded
  have hcapitals : upper added = "CAP_".toList := by
    rw [← upper_map_toLower, hadded]
    decide +kernel
  have hrest : trim (blanks ++ cs) = trimEnd cs := by
    rw [← trim_eq_trimEnd hcs]
    simpa using trim_append_blanks hblanks (List.forall_mem_nil _) cs
  rw [trim_append_word hword hne, List.dropWhile_eq_nil_iff.mpr hblanks, List.nil_append,
    upper_append, hcapitals, hrest]

end Text

/-! ## Canonical names -/

/-- The canonical name of a capability that is written: in capitals, without blanks around it and
without the prefix in front of it. -/
inductive NamesCapability (written : String) : String → Prop
  /-- One prefix is taken off. -/
  | prefixed {name : String} :
      Text.upper (Text.trim written.toList) = "CAP_".toList ++ name.toList →
        NamesCapability written name
  /-- Without the prefix the whole of it is the name. -/
  | plain {name : String} : Text.upper (Text.trim written.toList) = name.toList →
      ¬ "CAP_".toList <+: name.toList → NamesCapability written name

theorem namesCapability_iff {written name : String} :
    NamesCapability written name ↔ capabilityName written = name := by
  rw [capabilityName, ← String.toList_inj, String.toList_ofList]
  constructor
  · rintro (hprefixed | ⟨hplain, hnot⟩)
    · simp [hprefixed]
    · rw [hplain, if_neg (by simpa using hnot)]
  · intro hname
    split at hname
    · next hprefix =>
      obtain ⟨rest, hrest⟩ := List.isPrefixOf_iff_prefix.mp hprefix
      refine .prefixed ?_
      rw [← hname, ← hrest]
      rfl
    · next hnot =>
      exact .plain hname (by rw [← hname]; simpa using hnot)

/-- A capability that is written in another way. -/
inductive RespellsCapability : String → String → Prop
  /-- Letters of ASCII change their case. -/
  | letters {written other : String} :
      other.toList.map Char.toLower = written.toList.map Char.toLower →
        RespellsCapability written other
  /-- Blanks are added around it. -/
  | blanks {written before after : String} : (∀ c ∈ before.toList, Text.isBlank c = true) →
      (∀ c ∈ after.toList, Text.isBlank c = true) →
        RespellsCapability written (before ++ written ++ after)
  /-- The prefix is added in any case, behind the blanks at the start. -/
  | prefixed {blanks added written : String} : (∀ c ∈ blanks.toList, Text.isBlank c = true) →
      (∀ c ∈ written.toList.head?, Text.isBlank c = false) →
        added.toList.map Char.toLower = "cap_".toList →
          ¬ "CAP_".toList <+: Text.upper (Text.trim (blanks ++ written).toList) →
            RespellsCapability (blanks ++ written) (blanks ++ added ++ written)

/-- What is written differently names the same capability. -/
theorem capabilityName_eq_of_respells {written other : String}
    (h : RespellsCapability written other) : capabilityName other = capabilityName written := by
  cases h with
  | letters hletters =>
    have hcapitals :
        Text.upper (Text.trim other.toList) = Text.upper (Text.trim written.toList) := by
      rw [← Text.upper_map_toLower, ← Text.trim_map_toLower, hletters, Text.trim_map_toLower,
        Text.upper_map_toLower]
    rw [capabilityName, capabilityName, hcapitals]
  | @blanks written before after hbefore hafter =>
    rw [capabilityName, capabilityName, String.toList_append, String.toList_append,
      Text.trim_append_blanks hbefore hafter]
  | @prefixed blanks added written hblanks hwritten hadded hnot =>
    have hcapitals : Text.upper (Text.trim (blanks ++ added ++ written).toList) =
        "CAP_".toList ++ Text.upper (Text.trim (blanks ++ written).toList) := by
      simpa using Text.upper_trim_prefixed hblanks hwritten hadded
    have hname : capabilityName (blanks ++ written) =
        String.ofList (Text.upper (Text.trim (blanks ++ written).toList)) :=
      namesCapability_iff.mp (.plain (by simp) (by simpa using hnot))
    rw [hname]
    exact namesCapability_iff.mp (.prefixed (by simpa using hcapitals))

/-- A list of capabilities in which one is written in another way, or repeated later. -/
inductive RespellsCapabilities : List String → List String → Prop
  | respelled {before after : List String} {written other : String} :
      RespellsCapability written other →
        RespellsCapabilities (before ++ written :: after) (before ++ other :: after)
  | repeated {before after : List String} {written : String} : written ∈ before →
      RespellsCapabilities (before ++ after) (before ++ written :: after)

/-- One change of a list leaves the names that it holds. -/
theorem eraseDups_capabilityName_of_respells {entries others : List String}
    (h : RespellsCapabilities entries others) :
    (others.map capabilityName).eraseDups = (entries.map capabilityName).eraseDups := by
  cases h with
  | respelled hwritten =>
    rw [List.map_append, List.map_cons, capabilityName_eq_of_respells hwritten, List.map_append,
      List.map_cons]
  | repeated hmem =>
    rw [List.map_append, List.map_cons, eraseDups_append_cons_of_mem (List.mem_map_of_mem hmem),
      List.map_append]

/-- **So does any number of changes.** -/
theorem eraseDups_capabilityName_of_reflTransGen {entries others : List String}
    (h : Relation.ReflTransGen RespellsCapabilities entries others) :
    (others.map capabilityName).eraseDups = (entries.map capabilityName).eraseDups := by
  induction h with
  | refl => rfl
  | tail _ hstep ih => rw [eraseDups_capabilityName_of_respells hstep, ih]

/-! ## What is found -/

namespace Manifest

/-- A service whose capabilities are written in another way. -/
structure RespellsAdded (tree tree' : Tree) : Prop where
  respelled : ∃ entries others, Lists text "cap_add" tree entries ∧
    Lists text "cap_add" tree' others ∧ Relation.ReflTransGen RespellsCapabilities entries others
  others : ∃ fields fields', Tree.declared? (some tree) = some fields ∧
    Tree.declared? (some tree') = some fields' ∧
      ∀ key ≠ "cap_add", fields'.lookup key = fields.lookup key

/-- **A service is read in both spellings**, with the same capabilities. -/
theorem exists_readsAs_of_respellsAdded {name : String} {tree tree' : Tree} {service : Service}
    (hread : ReadsAs name tree service) (h : RespellsAdded tree tree') :
    ∃ other, ReadsAs name tree' other ∧ other.name = service.name ∧
      other.capabilitiesAdded = service.capabilitiesAdded := by
  obtain ⟨fields, fields', hfields, hfields', hothers⟩ := h.others
  obtain ⟨entries, others, hentries, hothers', hrespelled⟩ := h.respelled
  obtain ⟨fields₀, hfields₀, shape, hshape, hservice⟩ := readsAs_iff.mp hread
  obtain rfl := Option.some.inj (hfields.symm.trans hfields₀)
  have hlisted : shape.capabilities = entries :=
    Checked.valid.inj
      ((hshape.get .capabilities).symm.trans (listOrNothing_of_lists hentries hfields))
  have hmore : ServiceShape.ReadFrom { shape with capabilities := others } fields' :=
    hshape.set .capabilities hothers (listOrNothing_of_lists hothers' hfields')
  -- Capabilities can always be read, so nothing else of the service is refused.
  have haccepted := exists_reduceService_eq_ok_iff.mp ⟨service, hservice⟩
  obtain ⟨other, hother⟩ : ∃ other, reduceService name { shape with capabilities := others } =
      .ok other := exists_reduceService_eq_ok_iff.mpr haccepted
  refine ⟨other, readsAs_iff.mpr ⟨fields', hfields', _, hmore, hother⟩, ?_, ?_⟩
  · rw [name_of_reduceService hother, name_of_reduceService hservice]
  · rw [(fields_of_reduceService hother).2.1, (fields_of_reduceService hservice).2.1, hlisted]
    exact eraseDups_capabilityName_of_reflTransGen hrespelled

end Manifest

namespace Rule

variable {context : RuleContext} {name : String} {tree tree' : Tree} {service : Service}

/-- The hit on a canonical name. -/
def capabilityHit (service : Service) (name : String) : Hit :=
  ⟨.medium, about service ("has dangerous capability: " ++ name)⟩

/-- What is found of the capabilities of a service. -/
structure FindsCapabilities (context : RuleContext) (tree : Tree) (service : Service)
    (entries names : List String) : Prop where
  listed : Manifest.Lists text "cap_add" tree entries
  named : List.Forall₂ NamesCapability entries names
  hits : dangerousCapabilities.hits? context service =
    some ((names.eraseDups.filter (· ∈ context.tables.dangerousCapabilities)).map
      (capabilityHit service))
  /-- There is at most one hit on a name. -/
  nodup : ((names.eraseDups.filter (· ∈ context.tables.dangerousCapabilities)).map
    (capabilityHit service)).Nodup

theorem capabilityHit_injective (service : Service) :
    Function.Injective (capabilityHit service) :=
  hit_injective service .medium "has dangerous capability: "

theorem hits?_dangerousCapabilities (context : RuleContext) (service : Service) :
    dangerousCapabilities.hits? context service =
      some ((service.capabilitiesAdded.filter
        (· ∈ context.tables.dangerousCapabilities)).map (capabilityHit service)) := by
  have hrule : dangerousCapabilities.hits? context service =
      some ((service.capabilitiesAdded.filter
        context.tables.dangerousCapabilities.contains).map (capabilityHit service)) := rfl
  have hheld : context.tables.dangerousCapabilities.contains =
      fun name => decide (name ∈ context.tables.dangerousCapabilities) :=
    funext fun name => List.contains_eq_mem name _
  rw [hrule, hheld]

/-- **Dangerous capabilities are found as they are written.** The hits of a service are one on each
canonical name that the tables hold, in the order in which the names first come; and a service whose
capabilities are respelled or repeated is still read, with the same hits. -/
theorem findsCapabilities_of_readsAs (hread : Manifest.ReadsAs name tree service) :
    (∃ entries names, FindsCapabilities context tree service entries names) ∧
    ∀ tree', Manifest.RespellsAdded tree tree' →
      ∃ other, Manifest.ReadsAs name tree' other ∧
        dangerousCapabilities.hits? context other =
          dangerousCapabilities.hits? context service := by
  constructor
  · obtain ⟨entries, hlisted, hnames, -⟩ := Manifest.capabilities_of_readsAs hread
    refine ⟨entries, entries.map capabilityName, hlisted, ?_, ?_, ?_⟩
    · rw [List.forall₂_map_right_iff, List.forall₂_same]
      exact fun written _ => namesCapability_iff.mpr rfl
    · rw [hits?_dangerousCapabilities, hnames]
    · exact ((nodup_eraseDups _).filter _).map (capabilityHit_injective service)
  · intro tree' hrespells
    obtain ⟨other, hother, hname, hcapabilities⟩ :=
      Manifest.exists_readsAs_of_respellsAdded hread hrespells
    refine ⟨other, hother, ?_⟩
    have hhit : capabilityHit other = capabilityHit service := by
      funext name
      rw [capabilityHit, capabilityHit, about, about, hname]
    rw [hits?_dangerousCapabilities, hits?_dangerousCapabilities, hcapabilities, hhit]

/-- A service that adds capabilities, as a tree. -/
def granting (capabilities : List String) : Tree :=
  .mapping [("cap_add", .list (capabilities.map .text))]

/-- The service that is read of it. -/
def granted (capabilities : List String) : Service where
  name := "web"
  capabilitiesAdded := (capabilities.map capabilityName).eraseDups

theorem declared?_granting (capabilities : List String) :
    Tree.declared? (some (granting capabilities)) =
      some [("cap_add", .list (capabilities.map .text))] :=
  congrArg some (readingOrder_singleton _)

theorem lists_granting (capabilities : List String) :
    Manifest.Lists text "cap_add" (granting capabilities) capabilities := by
  refine ⟨_, capabilities.map .text, declared?_granting capabilities, rfl, ?_⟩
  rw [List.map_map]
  rfl

theorem respellsAdded_granting {entries others : List String}
    (h : Relation.ReflTransGen RespellsCapabilities entries others) :
    Manifest.RespellsAdded (granting entries) (granting others) where
  respelled := ⟨entries, others, lists_granting entries, lists_granting others, h⟩
  others := by
    refine ⟨_, _, declared?_granting entries, declared?_granting others, fun key hkey => ?_⟩
    rw [lookup_cons_eq_ite, lookup_cons_eq_ite, if_neg hkey, if_neg hkey]

/-- Another spelling, with what was there before at its end. -/
theorem findsCapabilities_granting :
    Manifest.ReadsAs "web" (granting ["net_admin", " CHOWN", "CAP_SYS_ADMIN"])
      (granted ["net_admin", " CHOWN", "CAP_SYS_ADMIN"]) ∧
    dangerousCapabilities.hits? ⟨.empty "compose.yml", .standard⟩
        (granted ["net_admin", " CHOWN", "CAP_SYS_ADMIN"]) =
      some [⟨.medium, "Service 'web' has dangerous capability: NET_ADMIN"⟩,
        ⟨.medium, "Service 'web' has dangerous capability: SYS_ADMIN"⟩] ∧
    Manifest.RespellsAdded (granting ["net_admin", " CHOWN", "CAP_SYS_ADMIN"])
      (granting ["net_admin", " cap_CHOWN", "\tCAP_SYS_ADMIN ", "NET_admin"]) ∧
    ∃ other, Manifest.ReadsAs "web"
        (granting ["net_admin", " cap_CHOWN", "\tCAP_SYS_ADMIN ", "NET_admin"]) other ∧
      dangerousCapabilities.hits? ⟨.empty "compose.yml", .standard⟩ other =
        dangerousCapabilities.hits? ⟨.empty "compose.yml", .standard⟩
          (granted ["net_admin", " CHOWN", "CAP_SYS_ADMIN"]) := by
  have hread : Manifest.ReadsAs "web" (granting ["net_admin", " CHOWN", "CAP_SYS_ADMIN"])
      (granted ["net_admin", " CHOWN", "CAP_SYS_ADMIN"]) := ⟨_, rfl, rfl⟩
  have hchown : RespellsCapability " CHOWN" " cap_CHOWN" :=
    @RespellsCapability.prefixed " " "cap_" "CHOWN" (by simp [Text.isBlank])
      (by simp [Text.isBlank]) (by decide) (by decide +kernel)
  have hadmin : RespellsCapability "CAP_SYS_ADMIN" "\tCAP_SYS_ADMIN " :=
    @RespellsCapability.blanks "CAP_SYS_ADMIN" "\t" " " (by simp [Text.isBlank])
      (by simp [Text.isBlank])
  have hnet : RespellsCapability "net_admin" "NET_admin" := .letters (by decide)
  have hsteps : Relation.ReflTransGen RespellsCapabilities ["net_admin", " CHOWN", "CAP_SYS_ADMIN"]
      ["net_admin", " cap_CHOWN", "\tCAP_SYS_ADMIN ", "NET_admin"] := by
    refine .head (@RespellsCapabilities.respelled ["net_admin"] _ _ _ hchown) ?_
    refine .head (@RespellsCapabilities.respelled ["net_admin", " cap_CHOWN"] _ _ _ hadmin) ?_
    refine .head (@RespellsCapabilities.repeated
      ["net_admin", " cap_CHOWN", "\tCAP_SYS_ADMIN "] [] "net_admin" (by decide)) ?_
    exact .single (@RespellsCapabilities.respelled
      ["net_admin", " cap_CHOWN", "\tCAP_SYS_ADMIN "] [] _ _ hnet)
  have hrespells : Manifest.RespellsAdded (granting ["net_admin", " CHOWN", "CAP_SYS_ADMIN"])
      (granting ["net_admin", " cap_CHOWN", "\tCAP_SYS_ADMIN ", "NET_admin"]) :=
    respellsAdded_granting hsteps
  exact ⟨hread, by decide +kernel, hrespells,
    (findsCapabilities_of_readsAs hread).2 _ hrespells⟩

/-- The prefix does not go in front of blanks: behind it they are part of the name. -/
theorem not_forall_prefixed : ¬ ∀ (context : RuleContext) (before after : List String)
    (added written : String) (service other : Service),
      added.toList.map Char.toLower = "cap_".toList →
        ¬ "CAP_".toList <+: Text.upper (Text.trim written.toList) →
          Manifest.ReadsAs "web" (granting (before ++ written :: after)) service →
            Manifest.ReadsAs "web" (granting (before ++ (added ++ written) :: after)) other →
              dangerousCapabilities.hits? context other =
                dangerousCapabilities.hits? context service := by
  intro hall
  have hsame := hall ⟨.empty "compose.yml", .standard⟩ [] [] "CAP_" " SYS_ADMIN"
    (granted [" SYS_ADMIN"]) (granted ["CAP_ SYS_ADMIN"]) (by decide) (by decide +kernel)
    ⟨_, rfl, rfl⟩ ⟨_, rfl, rfl⟩
  have hdiffer : dangerousCapabilities.hits? ⟨.empty "compose.yml", .standard⟩
      (granted ["CAP_ SYS_ADMIN"]) ≠ dangerousCapabilities.hits? ⟨.empty "compose.yml", .standard⟩
        (granted [" SYS_ADMIN"]) := by
    decide +kernel
  exact hdiffer hsame

end Rule

end ComposeLint
