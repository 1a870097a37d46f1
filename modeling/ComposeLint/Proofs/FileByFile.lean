import ComposeLint.Audit
import ComposeLint.Proofs.Writing
import ComposeLint.Yaml.Stream
import Mathlib.Data.List.Forall2
import Mathlib.Data.List.Infix

/-!
# Auditing file by file

A report is put together from what each file gives (`Audit.Gives`): one finding that says why it
could not be processed, or the findings of its document. No file has a part in what another one
gives, so a list of files may be audited in two parts (`Report.ofFiles_append`), and what is at one
place of the disk matters only to the paths that come by it (`FileTree.readPlace_congr`).
-/

namespace ComposeLint

/-! ## Counting -/

namespace SeverityCounts

theorem count_more (counts : SeverityCounts) (found severity : Severity) :
    (counts.more found).count severity =
      counts.count severity + if found = severity then 1 else 0 := by
  cases found <;> cases severity <;> rfl

/-- **A tally counts the findings of each severity.** -/
theorem count_tally (findings : List Finding) (severity : Severity) :
    (tally findings).count severity =
      findings.countP fun finding => finding.severity = severity := by
  -- The tally goes on from what has been counted before.
  have key : ∀ (findings : List Finding) (counts : SeverityCounts),
      (findings.foldl (fun counts finding => counts.more finding.severity) counts).count severity =
        counts.count severity + findings.countP fun finding => finding.severity = severity := by
    intro findings
    induction findings with
    | nil => intro counts; rfl
    | cons finding rest ih =>
      intro counts
      rw [List.foldl_cons, ih, count_more, List.countP_cons]
      simp only [decide_eq_true_eq]
      omega
  rw [tally, key]
  cases severity <;> exact Nat.zero_add _

end SeverityCounts

namespace Report

/-- **Files are added up.** -/
theorem ofFiles_append (a b : List FileResult) :
    (ofFiles (a ++ b)).findings = (ofFiles a).findings ++ (ofFiles b).findings ∧
      (∀ severity, (ofFiles (a ++ b)).counts.count severity =
        (ofFiles a).counts.count severity + (ofFiles b).counts.count severity) ∧
      (ofFiles (a ++ b)).filesScanned = (ofFiles a).filesScanned + (ofFiles b).filesScanned := by
  refine ⟨List.flatMap_append, fun severity => ?_, List.length_append⟩
  simp only [ofFiles, SeverityCounts.count_tally, List.flatMap_append, List.countP_append]

end Report

/-! ## Trees that differ at one place -/

namespace FileTree

variable {tree other : FileTree} {place : Place} {path : String}

/-- Two trees that differ at most in what is at one place: a file, a directory or nothing. -/
structure SameBut (place : Place) (tree other : FileTree) : Prop where
  text : ∀ elsewhere, elsewhere ≠ place → other.text? elsewhere = tree.text? elsewhere
  isDirectory : ∀ elsewhere, elsewhere ≠ place →
    other.isDirectory elsewhere = tree.isDirectory elsewhere

/-- Whether the way from one place along some names comes to another one. -/
def ComesBy (place start : Place) (steps : List String) : Prop :=
  ∃ before ∈ steps.inits, advance start before = place

instance (place start : Place) (steps : List String) : Decidable (ComesBy place start steps) :=
  inferInstanceAs (Decidable (∃ before ∈ steps.inits, advance start before = place))

/-- A way that does not come by the place begins elsewhere and goes on so. -/
theorem not_comesBy_cons {start : Place} {name : String} {steps : List String}
    (h : ¬ ComesBy place start (name :: steps)) :
    start ≠ place ∧ ¬ ComesBy place (advance start [name]) steps := by
  refine ⟨fun hstart => h ⟨[], by simp, hstart⟩, ?_⟩
  rintro ⟨before, hbefore, hplace⟩
  refine h ⟨name :: before, by simpa using hbefore, ?_⟩
  rwa [advance_cons]

/-- **A walk does not notice what it does not come by.** -/
theorem walk_congr (hsame : tree.SameBut place other) {start : Place} {steps : List String}
    (hway : ¬ ComesBy place start steps) :
    other.walk path start steps = tree.walk path start steps := by
  induction steps generalizing start with
  | nil => rfl
  | cons name steps ih =>
    obtain ⟨hstart, hrest⟩ := not_comesBy_cons hway
    have hblocked : other.blocked? start path = tree.blocked? start path := by
      rw [blocked?, blocked?, hsame.isDirectory start hstart, hsame.text start hstart]
    rw [walk, walk, hblocked, ih hrest]

/-- What is read depends on the walk and on what is at its end. -/
theorem readPlace_eq_of_follow {target : Place}
    (hfollow : other.follow (pathOf target) = tree.follow (pathOf target))
    (htext : other.text? (resolve [] (pathOf target)) = tree.text? (resolve [] (pathOf target)))
    (hdirectory : other.isDirectory (resolve [] (pathOf target)) =
      tree.isDirectory (resolve [] (pathOf target))) :
    other.readPlace target = tree.readPlace target := by
  rw [readPlace, readPlace, hfollow]
  cases harrives : tree.follow (pathOf target) with
  | error fault => rfl
  | ok arrived =>
    obtain ⟨-, -, rfl⟩ := follow_pathOf_eq_ok_iff.mp harrives
    change other.readAt _ _ = tree.readAt _ _
    rw [readAt, readAt, htext, hdirectory]

/-- **So what is read elsewhere is the same.** -/
theorem readPlace_congr (hsame : tree.SameBut place other) {target : Place}
    (hway : ¬ ComesBy place [] (names (pathOf target))) :
    other.readPlace target = tree.readPlace target := by
  have hend : resolve [] (pathOf target) ≠ place := fun hplace =>
    hway ⟨_, (List.mem_inits _ _).mpr (List.prefix_refl _), by
      rwa [resolve, if_pos (isAbsolute_pathOf target)] at hplace⟩
  refine readPlace_eq_of_follow ?_ (hsame.text _ hend) (hsame.isDirectory _ hend)
  simp only [follow, isAbsolute_pathOf, if_true, walk_congr hsame hway]

/-! ## Another text or a directory in the place of a file -/

/-- The tree with another text in a file. -/
def withText (tree : FileTree) (place : Place) (text : String) : FileTree :=
  { tree with files := setText place text tree.files }

/-- The tree with a directory in the place of a file. -/
def withDirectory (tree : FileTree) (place : Place) : FileTree :=
  { tree with
    files := tree.files.filter fun file => file.1 != place
    directories := place :: tree.directories }

theorem text?_withText (text : String) (elsewhere : Place) :
    (tree.withText place text).text? elsewhere =
      if elsewhere = place then some text else tree.text? elsewhere :=
  lookup_setText ..

/-- Setting the text of a file that is there keeps the places of all files. -/
theorem map_fst_setText {files : List (Place × String)} (h : (files.lookup place).isSome)
    (text : String) : (setText place text files).map Prod.fst = files.map Prod.fst := by
  induction files with
  | nil => cases h
  | cons file rest ih =>
    obtain ⟨held, content⟩ := file
    rw [setText]
    by_cases hheld : held = place
    · simp [hheld]
    · rw [lookup_cons_eq_ite, if_neg (Ne.symm hheld)] at h
      rw [if_neg hheld, List.map_cons, List.map_cons, ih h]

theorem isDirectory_withText (h : (tree.text? place).isSome) (text : String) (elsewhere : Place) :
    (tree.withText place text).isDirectory elsewhere = tree.isDirectory elsewhere := by
  have hany : ∀ files : List (Place × String),
      (files.any fun file => elsewhere.isPrefixOf file.1 && file.1 != elsewhere) =
        (files.map Prod.fst).any fun held => elsewhere.isPrefixOf held && held != elsewhere :=
    fun files => by rw [List.any_map]; rfl
  simp only [withText, isDirectory, hany, map_fst_setText h]

/-- A file is in the way of a walk whatever its text is. -/
theorem walk_withText (h : (tree.text? place).isSome) (text : String) {start : Place}
    {steps : List String} :
    (tree.withText place text).walk path start steps = tree.walk path start steps := by
  induction steps generalizing start with
  | nil => rfl
  | cons name steps ih =>
    have hisSome : ((tree.withText place text).text? start).isSome = (tree.text? start).isSome := by
      rw [text?_withText]
      split
      · next hstart => rw [hstart, h]; rfl
      · rfl
    have hblocked : (tree.withText place text).blocked? start path = tree.blocked? start path := by
      rw [blocked?, blocked?, isDirectory_withText h, hisSome]
    rw [walk, walk, hblocked, ih]

/-- **Another text in a file** is noticed only by a path that ends there. -/
theorem readPlace_withText (h : (tree.text? place).isSome) (text : String) {target : Place}
    (hend : resolve [] (pathOf target) ≠ place) :
    (tree.withText place text).readPlace target = tree.readPlace target := by
  refine readPlace_eq_of_follow ?_ ?_ (isDirectory_withText h text _)
  · simp only [follow, isAbsolute_pathOf, if_true, walk_withText h]
  · rw [text?_withText, if_neg hend]

theorem lookup_filter_ne {files : List (Place × String)} {elsewhere : Place}
    (helsewhere : elsewhere ≠ place) :
    (files.filter fun file => file.1 != place).lookup elsewhere = files.lookup elsewhere := by
  induction files with
  | nil => rfl
  | cons file rest ih =>
    obtain ⟨held, content⟩ := file
    by_cases hheld : held = place
    · subst hheld
      rw [List.filter_cons_of_neg (by simp), ih, lookup_cons_eq_ite, if_neg helsewhere]
    · rw [List.filter_cons_of_pos (by simpa using hheld), lookup_cons_eq_ite, lookup_cons_eq_ite,
        ih]

/-- **A directory in the place of a file** changes nothing else. -/
theorem sameBut_withDirectory (h : (tree.text? place).isSome) :
    tree.SameBut place (tree.withDirectory place) where
  text _ helsewhere := lookup_filter_ne helsewhere
  isDirectory elsewhere helsewhere := by
    obtain ⟨content, hcontent⟩ := Option.isSome_iff_exists.mp h
    obtain ⟨before, after, hfiles, -⟩ := List.lookup_eq_some_iff.mp hcontent
    have hfile : (place, content) ∈ tree.files := by simp [hfiles]
    rw [Bool.eq_iff_iff]
    simp only [withDirectory, FileTree.isDirectory, List.any_cons, Bool.or_eq_true,
      List.any_eq_true, List.mem_filter, Bool.and_eq_true, bne_iff_ne, ne_eq]
    -- Whatever leads to the place leads to the file that was there.
    constructor
    · rintro ((hlocation | hplace | hdirectory) | ⟨file, ⟨hmem, -⟩, hleads⟩)
      · exact .inl (.inl hlocation)
      · exact .inr ⟨_, hfile, hplace, Ne.symm helsewhere⟩
      · exact .inl (.inr hdirectory)
      · exact .inr ⟨file, hmem, hleads⟩
    · rintro ((hlocation | hdirectory) | ⟨file, hmem, hleads, hne⟩)
      · exact .inl (.inl hlocation)
      · exact .inl (.inr (.inr hdirectory))
      · by_cases hfirst : file.1 = place
        · exact .inl (.inr (.inl (hfirst ▸ hleads)))
        · exact .inr ⟨file, ⟨hmem, hfirst⟩, hleads, hne⟩

end FileTree

/-! ## What a file gives -/

namespace Audit

variable {audit : Audit} {path : String} {findings : List Finding}

/-- The finding about a file that could not be processed. -/
def unprocessed (path reason : String) : Finding where
  severity := .error
  category := "File Processing"
  message := "Failed to process " ++ path ++ ": " ++ reason
  sourceFile := path
  ruleId := "file-processing"
  serviceName := none

/-- What the file of a path gives: one finding if it cannot be read, cannot be loaded as a tree or
is no manifest, and otherwise the findings of the engine on its document. -/
inductive Gives (audit : Audit) (path : String) : List Finding → Prop
  | unreadable {fault : FileFault} :
      audit.tree.readPlace (FileTree.resolve audit.place path) = .error fault →
        Gives audit path [unprocessed path fault.message]
  | notLoaded {content text : String} :
      audit.tree.readPlace (FileTree.resolve audit.place path) = .ok content →
        audit.load path content = .error text → Gives audit path [unprocessed path text]
  | notManifest {content : String} {tree : Option Tree} {fault : ManifestFault} :
      audit.tree.readPlace (FileTree.resolve audit.place path) = .ok content →
        audit.load path content = .ok tree → Document.ofTree path tree = .error fault →
          Gives audit path [unprocessed path fault.message]
  | parsed {content : String} {tree : Option Tree} {document : Document} :
      audit.tree.readPlace (FileTree.resolve audit.place path) = .ok content →
        audit.load path content = .ok tree → Document.ofTree path tree = .ok document →
          Gives audit path (audit.engine.evaluate document)

/-- **Every file gives what is reported about it.** -/
theorem gives_fileResult (audit : Audit) (path : String) :
    audit.Gives path (audit.fileResult path).findings := by
  rw [fileResult, outcome, FileOutcome.of]
  cases hread : audit.tree.readPlace (FileTree.resolve audit.place path) with
  | error fault => exact .unreadable hread
  | ok content =>
    simp only [Document.parse]
    cases hload : audit.load path content with
    | error text => exact .notLoaded hread hload
    | ok tree =>
      cases hmanifest : Document.ofTree path tree with
      | error fault => simpa only [hmanifest] using .notManifest hread hload hmanifest
      | ok document => simpa only [hmanifest] using .parsed hread hload hmanifest

/-- And nothing else. -/
theorem gives_iff : audit.Gives path findings ↔ findings = (audit.fileResult path).findings := by
  constructor
  · intro h
    simp only [fileResult, outcome, FileOutcome.of, Document.parse]
    cases h with
    | unreadable hread => rw [hread]; rfl
    | notLoaded hread hload => simp only [hread, hload]; rfl
    | notManifest hread hload hmanifest => simp only [hread, hload, hmanifest]; rfl
    | parsed hread hload hmanifest => simp only [hread, hload, hmanifest]; rfl
  · rintro rfl
    exact gives_fileResult audit path

/-! ## What many files give -/

/-- **The blocks of a report.** Every file gives one, and they stand in the order of the files. -/
theorem exists_blocks (audit : Audit) (paths : List String) :
    ∃ blocks, List.Forall₂ audit.Gives paths blocks ∧
      (audit.report paths).findings = blocks.flatten := by
  refine ⟨paths.map fun path => (audit.fileResult path).findings, ?_, ?_⟩
  · rw [List.forall₂_map_right_iff, List.forall₂_same]
    exact fun path _ => gives_fileResult audit path
  · rw [report, Report.ofFiles, List.flatMap_map, List.flatMap_def]

/-- The path from the root by which a file is read. -/
def fullPath (audit : Audit) (path : String) : String :=
  FileTree.pathOf (FileTree.resolve audit.place path)

/-- On another disk a path gives what it gave if the same is read for it. -/
theorem gives_congr {other : FileTree}
    (hread : other.readPlace (FileTree.resolve audit.place path) =
      audit.tree.readPlace (FileTree.resolve audit.place path)) :
    ({ audit with tree := other } : Audit).Gives path findings ↔ audit.Gives path findings := by
  have houtcome : ({ audit with tree := other } : Audit).outcome path = audit.outcome path := by
    simp only [outcome, FileOutcome.of, hread]
  rw [gives_iff, gives_iff, fileResult, fileResult, houtcome]

/-- Two manifests in one directory. -/
def twoManifests : FileTree where
  location := ["work"]
  files := [(["work", "compose.yml"], "services: \x7bweb: \x7bprivileged: true\x7d\x7d\n"),
    (["work", "team.yml"], "services: \x7bdb: \x7buser: root\x7d\x7d\n")]
  directories := []

/-- An audit of some files by the rules of every audit. -/
def auditOf (tree : FileTree) : Audit where
  load := Yaml.load
  engine := .selected false .standard
  tree := tree
  place := ["work"]

end Audit

end ComposeLint
