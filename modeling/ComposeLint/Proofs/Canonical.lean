import ComposeLint.Proofs.Declared
import ComposeLint.Proofs.Image
import Mathlib.Data.List.Infix

/-!
# Canonical documents

Rules look at a document and check nothing of it again. What they rely on is said here, for each
kind of value on its own (`PortSide.Canonical`, `Image.Canonical` and so on), and every way of
writing a field leads to a canonical value: so every document that is read is canonical
(`canonical_ofTree`). A text that is kept because it refers to a variable is trimmed, and still
refers to one (`Refers.trim`).
-/

namespace ComposeLint

/-! ## Trimming -/

namespace Text

variable {cs : List Char} {c : Char}

theorem trimEnd_prefix (cs : List Char) : trimEnd cs <+: cs := by
  have hsuffix := List.reverse_prefix.mpr (List.dropWhile_suffix (l := cs.reverse) isBlank)
  rwa [List.reverse_reverse] at hsuffix

/-- **A trimmed text begins and ends without a blank.** -/
theorem isBlank_of_mem_head?_trim (h : c ∈ (trim cs).head?) : isBlank c = false := by
  have hhead : (trim cs).head? = (cs.dropWhile isBlank).head? := by
    obtain ⟨rest, hrest⟩ := trimEnd_prefix (cs.dropWhile isBlank)
    cases htrim : trimEnd (cs.dropWhile isBlank) with
    | nil => rw [trim, htrim] at h; cases h
    | cons first others => rw [trim, htrim, ← hrest, htrim]; rfl
  have hnot := List.head?_dropWhile_not isBlank cs
  rw [hhead] at h
  rw [h] at hnot
  exact hnot

theorem isBlank_of_mem_getLast?_trim (h : c ∈ (trim cs).getLast?) : isBlank c = false := by
  have hnot := List.head?_dropWhile_not isBlank (cs.dropWhile isBlank).reverse
  rw [trim, trimEnd, List.getLast?_reverse] at h
  rw [h] at hnot
  exact hnot

/-- What follows a character that is kept is kept too. -/
theorem dropWhile_append_cons {α : Type} {p : α → Bool} {x : α} (hx : p x = false)
    (xs ys : List α) : (xs ++ x :: ys).dropWhile p = xs.dropWhile p ++ x :: ys := by
  rw [List.dropWhile_append]
  split
  · next hnil => rw [List.isEmpty_iff.mp hnil, List.dropWhile_cons_of_neg (by simp [hx])]; rfl
  · rfl

/-- **Trimming goes on both sides** of two characters that are no blanks. -/
theorem trim_append_cons_cons {d : Char} (hc : isBlank c = false) (hd : isBlank d = false)
    (before after : List Char) :
    trim (before ++ c :: d :: after) = before.dropWhile isBlank ++ c :: d :: trimEnd after := by
  have hreverse : (before.dropWhile isBlank ++ c :: d :: after).reverse =
      after.reverse ++ d :: c :: (before.dropWhile isBlank).reverse := by simp
  rw [trim, dropWhile_append_cons hc, trimEnd, hreverse, dropWhile_append_cons hd, trimEnd]
  simp

end Text

namespace Substitution

variable {text : List Char}

/-- Whether a text refers to a variable: in it stands a dollar that no dollar precedes, and behind
this one a brace or the first character of a name. -/
def Refers (text : List Char) : Prop :=
  ∃ before c after, text = before ++ '$' :: c :: after ∧ before.getLast? ≠ some '$' ∧
    (c = '{' ∨ beginsName c = true)

theorem opensReference_iff :
    opensReference text = true ↔
      ∃ c after, text = c :: after ∧ (c = '{' ∨ beginsName c = true) := by
  cases text <;> simp [opensReference]

/-- The character before a place, in a text that follows another one. -/
theorem or_getLast?_cons (first : Char) (before : List Char) (previous : Option Char) :
    (first :: before).getLast?.or previous = before.getLast?.or (some first) := by
  rw [List.getLast?_cons]
  cases before.getLast? <;> rfl

/-- What stands before a text matters only to a dollar that it begins with. -/
theorem referenceAfter_iff {previous : Option Char} :
    referenceAfter previous text = true ↔
      ∃ before c after, text = before ++ '$' :: c :: after ∧
        before.getLast?.or previous ≠ some '$' ∧ (c = '{' ∨ beginsName c = true) := by
  induction text generalizing previous with
  | nil => simp [referenceAfter]
  | cons first rest ih =>
    rw [referenceAfter, Bool.or_eq_true, ih]
    simp only [Bool.and_eq_true, beq_iff_eq, bne_iff_ne, opensReference_iff]
    -- The dollar is the first character, or it stands in the rest.
    constructor
    · rintro (⟨⟨rfl, hprevious⟩, c, after, rfl, hc⟩ | ⟨before, c, after, rfl, hbefore, hc⟩)
      · exact ⟨[], c, after, rfl, hprevious, hc⟩
      · exact ⟨first :: before, c, after, rfl, by rwa [or_getLast?_cons], hc⟩
    · rintro ⟨before, c, after, htext, hbefore, hc⟩
      cases before with
      | nil =>
        obtain ⟨rfl, rfl⟩ := List.cons.inj htext
        exact .inl ⟨⟨rfl, hbefore⟩, c, after, rfl, hc⟩
      | cons other before =>
        obtain ⟨rfl, rfl⟩ := List.cons.inj htext
        exact .inr ⟨before, c, after, rfl, by rwa [or_getLast?_cons] at hbefore, hc⟩

theorem occursIn_iff_refers : occursIn text = true ↔ Refers text := by
  simp only [occursIn, referenceAfter_iff, Option.or_none, Refers]

/-- What makes a dollar a reference is no blank. -/
theorem isBlank_of_opens {c : Char} (h : c = '{' ∨ beginsName c = true) :
    Text.isBlank c = false := by
  rcases h with rfl | hname
  · decide
  · have hrange : 65 ≤ c.toNat ∧ c.toNat ≤ 122 := by
      have hcases :
          ((65 ≤ c.toNat ∧ c.toNat ≤ 90) ∨ (97 ≤ c.toNat ∧ c.toNat ≤ 122)) ∨ c = '_' := by
        change (decide (c.val ≥ 65 ∧ c.val ≤ 90) ||
          decide (c.val ≥ 97) && decide (c.val ≤ 122) || c == '_') = true at hname
        simpa [UInt32.le_iff_toNat_le] using hname
      rcases hcases with (h | h) | rfl
      · omega
      · omega
      · decide
    simp only [Text.isBlank, Bool.or_eq_false_iff, Bool.and_eq_false_iff, decide_eq_false_iff_not,
      beq_eq_false_iff_ne]
    omega

/-- **A text that is trimmed still refers to a variable**: neither the dollar nor what follows it is
a blank. -/
theorem Refers.trim (h : Refers text) : Refers (Text.trim text) := by
  obtain ⟨before, c, after, rfl, hbefore, hc⟩ := h
  have hblank : Text.isBlank c = false := isBlank_of_opens hc
  refine ⟨before.dropWhile Text.isBlank, c, Text.trimEnd after,
    Text.trim_append_cons_cons (by decide) hblank before after, fun hlast => hbefore ?_, hc⟩
  -- The character before the dollar is the same, unless there is none any more.
  obtain ⟨blanks, hblanks⟩ := List.dropWhile_suffix (l := before) Text.isBlank
  rw [← hblanks, List.getLast?_append, hlast]
  rfl

/-- What is kept of a value that refers to a variable: the reference, and no blank at an end. -/
structure Expression (text : String) : Prop where
  refers : Refers text.toList
  head : ∀ c ∈ text.toList.head?, Text.isBlank c = false
  last : ∀ c ∈ text.toList.getLast?, Text.isBlank c = false

/-- **A trimmed text that refers to a variable is an expression.** -/
theorem expression_trim (h : occursIn text = true) :
    Expression (String.ofList (Text.trim text)) := by
  constructor <;> rw [String.toList_ofList]
  · exact (occursIn_iff_refers.mp h).trim
  · exact fun c => Text.isBlank_of_mem_head?_trim
  · exact fun c => Text.isBlank_of_mem_getLast?_trim

end Substitution

/-! ## What rules rely on -/

/-- The ports of one side are in order and none is above the largest; a text is an expression. -/
inductive PortSide.Canonical : PortSide → Prop
  | literal {first last : Nat} : first ≤ last → last ≤ 65535 → Canonical (.literal ⟨first, last⟩)
  | unresolved {expression : String} : Substitution.Expression expression →
      Canonical (.unresolved expression)

/-- A binding has an interface, and its sides are canonical. -/
structure PortBinding.Canonical (binding : PortBinding) : Prop where
  hostInterface : binding.hostInterface ≠ ""
  hostPort : ∀ side ∈ binding.hostPort, side.Canonical
  containerPort : binding.containerPort.Canonical

/-- No part of an image is empty, and its registry looks like a host. -/
structure Image.Canonical (image : Image) : Prop where
  tag : image.tag ≠ ""
  digest : ∀ digest ∈ image.digest, digest ≠ ""
  registry : ∀ host ∈ image.registry,
    '.' ∈ host.toList ∨ ':' ∈ host.toList ∨ host = "localhost"

/-- A policy is one that a manifest can name; a text is an expression. -/
inductive RestartSetting.Canonical : RestartSetting → Prop
  | policy {policy : RestartPolicy} :
      policy.name ∈ ["no", "always", "on-failure", "unless-stopped"] → Canonical (.policy policy)
  | unresolved {expression : String} : Substitution.Expression expression →
      Canonical (.unresolved expression)

/-- All that rules rely on in a service. -/
structure Service.Canonical (service : Service) : Prop where
  image : ∀ image ∈ service.image, image.Canonical
  volumeMounts : ∀ mount ∈ service.volumeMounts, mount.kind = .of mount.source
  ports : ∀ binding ∈ service.ports, binding.Canonical
  restartPolicy : ∀ setting ∈ service.restartPolicy, setting.Canonical

/-- All that rules rely on in a document: services are canonical and stand under their names. -/
structure Document.Canonical (document : Document) : Prop where
  name : ∀ entry ∈ document.services.entries, entry.2.name = entry.1
  service : ∀ entry ∈ document.services.entries, entry.2.Canonical

/-! ## Fields -/

theorem PortRange.le_of_parse?_eq_some {text : List Char} {range : PortRange}
    (h : parse? text = some range) : range.first ≤ range.last ∧ range.last ≤ 65535 := by
  simp only [parse?] at h
  split at h
  · cases h
  · split at h
    · split at h
      · cases h
      · next hordered =>
        cases h
        simp only [Bool.or_eq_true, decide_eq_true_eq, not_or, not_lt] at hordered
        exact hordered
    · cases h

theorem PortSide.canonical_of_parse? {text : List Char} {side : PortSide}
    (h : parse? text = some side) : side.Canonical := by
  rw [parse?] at h
  split at h
  · next hoccurs =>
    cases h
    exact .unresolved (Substitution.expression_trim hoccurs)
  · obtain ⟨range, hrange, rfl⟩ := Option.map_eq_some_iff.mp h
    obtain ⟨hle, hmax⟩ := PortRange.le_of_parse?_eq_some hrange
    exact .literal hle hmax

namespace PortBinding

variable {binding : PortBinding}

/-- Whatever the parts are, a binding that is made of them is canonical. -/
theorem canonical_of_ofParts? {hostInterface host container protocol : List Char}
    (h : ofParts? hostInterface host container protocol = some binding) : binding.Canonical := by
  have hinterface : (if hostInterface.isEmpty then allInterfaces
      else String.ofList hostInterface) ≠ "" := by
    split
    · decide
    · next hne => simpa using hne
  rw [ofParts?] at h
  split at h
  · simp only [Option.bind_eq_bind, Option.bind_some, Option.bind_eq_some_iff] at h
    obtain ⟨containerPort, hcontainer, hbinding⟩ := h
    cases hbinding
    exact ⟨hinterface, by simp, PortSide.canonical_of_parse? hcontainer⟩
  · simp only [Option.bind_eq_bind, Option.bind_eq_some_iff, Option.map_eq_some_iff] at h
    obtain ⟨_, ⟨side, hside, rfl⟩, containerPort, hcontainer, hbinding⟩ := h
    cases hbinding
    refine ⟨hinterface, ?_, PortSide.canonical_of_parse? hcontainer⟩
    rintro _ ⟨rfl⟩
    exact PortSide.canonical_of_parse? hside

theorem canonical_of_parse? {written : String} (h : parse? written = some binding) :
    binding.Canonical := by
  simp only [parse?, Option.bind_eq_bind, Option.bind_eq_some_iff] at h
  obtain ⟨⟨bracketed, rest⟩, -, hsegments⟩ := h
  rw [ofSegments?] at hsegments
  split at hsegments
  · exact canonical_of_ofParts? hsegments
  · exact canonical_of_ofParts? hsegments
  · split at hsegments
    · exact canonical_of_ofParts? hsegments
    · cases hsegments
  · cases hsegments

end PortBinding

namespace Image

/-- A part that is kept is not empty. -/
theorem ne_empty_of_mem_nonempty? {part : Option (List Char)} {text : String}
    (h : text ∈ nonempty? part) : text ≠ "" := by
  rcases part with _ | _ | ⟨c, cs⟩
  · cases h
  · cases h
  · cases h
    simp

/-- What is taken for a registry looks like a host. -/
theorem isHost_of_splitRegistry {name host : List Char} (h : (splitRegistry name).1 = some host) :
    isHost host = true := by
  rw [splitRegistry] at h
  split at h
  · split at h
    · next hhost =>
      cases h
      exact hhost
    · cases h
  · cases h

/-- The parts that are kept of a text. -/
theorem exists_parts (raw : String) :
    ∃ name tag digest, (parse raw).registry = (splitRegistry name).1.map String.ofList ∧
      (parse raw).tag = (nonempty? tag).getD defaultTag ∧
      (parse raw).digest = nonempty? digest := by
  rw [parse]
  generalize splitDigest (Text.trim raw.toList) = named
  exact ⟨named.1, (splitTag (splitRegistry named.1).2).2, named.2, rfl, rfl, rfl⟩

/-- **Whatever is written, the image that is read is canonical.** -/
theorem canonical_parse (raw : String) : (parse raw).Canonical := by
  obtain ⟨name, tag, digest, hregistry, htag, hdigest⟩ := exists_parts raw
  constructor
  · rw [htag]
    cases hpart : nonempty? tag with
    | none => decide
    | some text => exact ne_empty_of_mem_nonempty? hpart
  · rw [hdigest]
    exact fun text => ne_empty_of_mem_nonempty?
  · intro host hhost
    rw [hregistry] at hhost
    obtain ⟨segment, hsegment, rfl⟩ := Option.map_eq_some_iff.mp hhost
    rw [String.toList_ofList, ← String.toList_inj, String.toList_ofList]
    exact isHost_iff.mp (isHost_of_splitRegistry hsegment)

end Image

theorem RestartSetting.canonical_of_parse? {written : String} {setting : RestartSetting}
    (h : parse? written = some setting) : setting.Canonical := by
  simp only [parse?] at h
  split at h
  · next hoccurs =>
    cases h
    exact .unresolved (Substitution.expression_trim hoccurs)
  · obtain ⟨policy, -, rfl⟩ := Option.map_eq_some_iff.mp h
    exact .policy (by cases policy <;> decide)

theorem Mount.kind_of_ofParts? {parts : List (List Char)} {mount : Mount}
    (h : ofParts? parts = some mount) : mount.kind = .of mount.source := by
  unfold ofParts? at h
  split at h
  · cases h
    rfl
  · split at h <;> cases h
    rfl
  · split at h <;> cases h
    rfl
  · cases h

/-! ## Lists and tables -/

/-- A property of all that is read one by one. -/
theorem forall_mem_of_mapM {α β ε : Type} {f : α → Except ε β} {P : β → Prop}
    (hread : ∀ x y, f x = .ok y → P y) {xs : List α} {ys : List β} (h : xs.mapM f = .ok ys) :
    ∀ y ∈ ys, P y := by
  rw [mapM_eq_ok_iff] at h
  induction h with
  | nil => simp
  | cons hxy _ ih => exact List.forall_mem_cons.mpr ⟨hread _ _ hxy, ih⟩

namespace Table

variable {α : Type} {entry : String × α}

theorem mem_set {name : String} {value : α} {entries : List (String × α)}
    (h : entry ∈ set name value entries) : entry = (name, value) ∨ entry ∈ entries := by
  induction entries with
  | nil => exact .inl (List.mem_singleton.mp h)
  | cons first rest ih =>
    rw [set] at h
    split at h
    · exact (List.mem_cons.mp h).imp_right (List.mem_cons_of_mem _)
    · rcases List.mem_cons.mp h with rfl | h
      · exact .inr List.mem_cons_self
      · exact (ih h).imp_right (List.mem_cons_of_mem _)

/-- A table holds nothing but what it was built from. -/
theorem mem_of_mem_ofList {entries : List (String × α)} (h : entry ∈ (ofList entries).entries) :
    entry ∈ entries := by
  have hfold : ∀ (entries : List (String × α)) (table : Table α),
      entry ∈ (entries.foldl (fun table entry => table.insert entry.1 entry.2) table).entries →
        entry ∈ table.entries ∨ entry ∈ entries := by
    intro entries
    induction entries with
    | nil => exact fun table => .inl
    | cons first rest ih =>
      intro table hmem
      rcases ih _ hmem with hmem | hmem
      · rcases mem_set hmem with rfl | hmem
        · exact .inr List.mem_cons_self
        · exact .inl hmem
      · exact .inr (List.mem_cons_of_mem _ hmem)
  exact (hfold entries empty h).resolve_left List.not_mem_nil

end Table

/-! ## Services and documents -/

namespace Manifest

theorem orFault_eq_ok_iff {α : Type} {fault : ManifestFault} {result : Option α} {value : α} :
    orFault fault result = .ok value ↔ result = some value := by
  cases result <;> simp [orFault]

theorem canonical_of_restart {service : String} {written : Option Scalar}
    {setting : Option RestartSetting} (h : restart service written = .ok setting) :
    ∀ s ∈ setting, s.Canonical := by
  unfold restart at h
  split at h
  · cases h
    simp
  · cases h
    rintro _ ⟨rfl⟩
    exact .policy (by decide)
  · obtain ⟨s, hs, rfl⟩ := map_eq_ok_iff.mp h
    rintro _ ⟨rfl⟩
    exact RestartSetting.canonical_of_parse? (orFault_eq_ok_iff.mp hs)

theorem kind_of_mount {service : String} {shape : VolumeShape} {m : Mount}
    (h : mount service shape = .ok m) : m.kind = .of m.source := by
  cases shape with
  | short written => exact Mount.kind_of_ofParts? (orFault_eq_ok_iff.mp h)
  | long source target readOnly =>
    cases h
    rfl

theorem canonical_of_binding {service : String} {shape : PortShape} {b : PortBinding}
    (h : binding service shape = .ok b) : b.Canonical := by
  cases shape with
  | short written => exact PortBinding.canonical_of_parse? (orFault_eq_ok_iff.mp h)
  | long port =>
    simp only [binding] at h
    split at h
    · cases h
    · exact PortBinding.canonical_of_ofParts? (orFault_eq_ok_iff.mp h)

/-- **A service is canonical**, whatever each of its fields is written like. -/
theorem canonical_of_reduceService {name : String} {shape : ServiceShape} {service : Service}
    (h : reduceService name shape = .ok service) : service.Canonical := by
  simp only [reduceService, bind_eq_ok_iff] at h
  obtain ⟨setting, hsetting, mounts, hmounts, bindings, hbindings, hservice⟩ := h
  cases hservice
  constructor
  · intro image himage
    obtain ⟨raw, -, rfl⟩ := Option.map_eq_some_iff.mp himage
    exact Image.canonical_parse raw
  · exact forall_mem_of_mapM (fun _ _ => kind_of_mount) hmounts
  · exact forall_mem_of_mapM (fun _ _ => canonical_of_binding) hbindings
  · exact canonical_of_restart hsetting

end Manifest

namespace Document

variable {path : String} {document : Document}

theorem canonical_empty (path : String) : (empty path).Canonical :=
  ⟨fun _ h => (List.not_mem_nil h).elim, fun _ h => (List.not_mem_nil h).elim⟩

theorem canonical_of_reduce {shape : ManifestShape}
    (h : Manifest.reduce path shape = .ok document) : document.Canonical := by
  rw [Manifest.reduce] at h
  split at h
  · cases h
    exact canonical_empty path
  · obtain ⟨services, hservices, rfl⟩ := map_eq_ok_iff.mp h
    constructor
    · exact fun entry hentry =>
        (Manifest.keys_of_reduceEntries hservices).2 entry (Table.mem_of_mem_ofList hentry)
    · have hcanonical : ∀ entry ∈ services, entry.2.Canonical := by
        refine forall_mem_of_mapM (fun _ entry hreduced => ?_) hservices
        obtain ⟨service, hservice, rfl⟩ := map_eq_ok_iff.mp hreduced
        exact Manifest.canonical_of_reduceService hservice
      exact fun entry hentry => hcanonical entry (Table.mem_of_mem_ofList hentry)

/-- **Every document that is read is canonical**, whatever the tree is. -/
theorem canonical_ofTree {tree : Option Tree} (h : ofTree path tree = .ok document) :
    document.Canonical := by
  cases tree with
  | none =>
    cases h
    exact canonical_empty path
  | some tree =>
    rcases ofTree_eq_ok_iff.mp h with ⟨-, rfl⟩ | ⟨-, shape, -, hreduce⟩
    · exact canonical_empty path
    · exact canonical_of_reduce hreduce

/-- A manifest with a volume and a port in either way of writing. Blanks stand around the image, and
around every text that refers to a variable. -/
def everyForm : Tree :=
  .mapping [("services", .mapping [("web", .mapping
    [("image", .text " localhost/app "),
      ("restart", .text " ${RESTART} "),
      ("volumes", .list
        [.text "$DATA:/data:ro", .mapping [("source", .text "cache"), ("target", .text "/cache")]]),
      ("ports", .list
        [.text "127.0.0.1: ${PORT} :8000-8010",
          .mapping [("target", .text " $TARGET"), ("host_ip", .text "")]])])])]

/-- The sides of the ports and the restart policy that are read. -/
theorem canonical_everyForm :
    ∃ document service, ofTree "compose.yml" (some everyForm) = .ok document ∧ document.Canonical ∧
      document.services.get? "web" = some service ∧
      service.ports.map PortBinding.hostPort = [some (.unresolved "${PORT}"), none] ∧
      service.ports.map PortBinding.containerPort = [.literal ⟨8000, 8010⟩, .unresolved "$TARGET"] ∧
      service.ports.map PortBinding.hostInterface = ["127.0.0.1", "0.0.0.0"] ∧
      service.restartPolicy = some (.unresolved "${RESTART}") := by
  have hread : ofTree "compose.yml" (some everyForm) = .ok _ := rfl
  exact ⟨_, _, hread, canonical_ofTree hread, rfl, by decide +kernel, by decide +kernel,
    by decide +kernel, by decide +kernel⟩

end Document

end ComposeLint
