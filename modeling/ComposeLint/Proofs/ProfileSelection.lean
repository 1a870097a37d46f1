import ComposeLint.Proofs.FieldByField
import ComposeLint.Proofs.Plan

/-!
# Which profile is selected

A tree is a profile if its fields are (`Profile.Writes`, `Profile.check_eq_valid_iff`): a field that
is left out means its default, and there is no field that is not known. The profile that is chosen
is the one in the file, if a file is named, and else the built-in one of the name
(`Profile.Chosen`); it is selected if all the rules that it exempts are known. There are five
reasons why no profile is selected (`Profile.Refuses`), and each of them is reported as a fault of
the policy, with advice (`Profile.resolves`).
-/

namespace ComposeLint

open Check

variable {α : Type}

/-! ## What stands where a value is read -/

namespace Check

variable {check : Check α} {found : Option Tree} {values : List α}

theorem nonemptyText_eq_valid_iff {s : String} :
    nonemptyText found = .valid s ↔ found = some (.text s) ∧ s ≠ "" := by
  cases found with
  | none => simp [nonemptyText, mismatch]
  | some tree =>
    cases tree with
    | text written =>
      rw [nonemptyText]
      by_cases hempty : written = ""
      · subst hempty
        refine iff_of_false (by simp) ?_
        rintro ⟨hwritten, hne⟩
        cases hwritten
        exact hne rfl
      · rw [if_neg (by simpa using hempty), Checked.valid.injEq, Option.some.injEq,
          Tree.text.injEq, iff_self_and]
        rintro rfl
        exact hempty
    | _ => simp [nonemptyText, mismatch]

theorem optional_text_eq_valid_iff {value : Option String} :
    Check.optional text found = .valid value ↔ found = value.map .text := by
  cases found with
  | none => cases value <;> simp [Check.optional]
  | some tree =>
    have hread : Check.optional text (some tree) = .valid value ↔
        (text (some tree)).map some = .valid value := Iff.rfl
    have hmeets : (text (some tree)).map some = .valid value ↔
        Accepts text (fun s => some s = value) (some tree) := by
      rw [← Checked.meets_eq_iff, Checked.meets_map]
      rfl
    rw [hread, hmeets, accepts_text_iff]
    cases value <;> simp

theorem oneOf_eq_valid_iff {options : List (String × α)} {value : α} :
    oneOf options found = .valid value ↔
      ∃ s, found = some (.text s) ∧ options.lookup s = some value := by
  cases found with
  | none => simp [oneOf, mismatch]
  | some tree =>
    cases tree with
    | text written =>
      rw [oneOf]
      cases hoption : options.lookup written <;> simp [hoption]
    | _ => simp [oneOf, mismatch]

theorem withDefault_eq_valid_iff {meant value : α} : withDefault meant check found = .valid value ↔
    found = none ∧ value = meant ∨ found ≠ none ∧ check found = .valid value := by
  cases found <;> simp [withDefault, eq_comm]

/-- A list whose items are read by how they are written. -/
theorem list_eq_valid_iff_of_writes {write : α → Tree} {P : α → Prop}
    (h : ∀ item value, check (some item) = .valid value ↔ item = write value ∧ P value) :
    list check found = .valid values ↔
      found.bind Tree.items? = some (values.map write) ∧ ∀ value ∈ values, P value := by
  have hitems : ∀ (items : List Tree) (values : List α),
      items.map (fun item => check (some item)) = values.map .valid ↔
        items = values.map write ∧ ∀ value ∈ values, P value := by
    intro items
    induction items with
    | nil => intro values; cases values <;> simp
    | cons item items ih =>
      intro values
      cases values with
      | nil => simp
      | cons value values =>
        simp only [List.map_cons, List.cons.injEq, h, ih, List.forall_mem_cons]
        exact and_and_and_comm
  rw [list_eq_valid_iff]
  simp only [hitems, ← and_assoc, exists_and_right, exists_eq_right]

theorem nonemptyList_eq_valid_iff :
    nonemptyList check found = .valid values ↔ list check found = .valid values ∧ values ≠ [] := by
  rw [nonemptyList, list]
  cases hitems : found.bind Tree.items? with
  | none => simp [mismatch]
  | some items =>
    cases items with
    | nil =>
      refine iff_of_false (by simp) ?_
      rintro ⟨hread, hne⟩
      cases hread
      exact hne rfl
    | cons item rest =>
      refine iff_self_and.mpr ?_
      rintro hread rfl
      cases Checked.all_eq_valid_iff.mp hread

theorem onlyKeys_eq_valid_iff {names : List String} {entries : List (String × Tree)} {u : Unit} :
    onlyKeys names entries = .valid u ↔ ∀ entry ∈ entries, entry.1 ∈ names := by
  have hnone : ((entries.map Prod.fst).filter fun key => !names.contains key) = [] ↔
      ∀ entry ∈ entries, entry.1 ∈ names := by
    simp [List.filter_eq_nil_iff]
  rw [← hnone, onlyKeys]
  cases (entries.map Prod.fst).filter fun key => !names.contains key <;> simp

end Check

namespace Severity

theorem lookup_names {s : String} {severity : Severity} :
    names.lookup s = some severity ↔ s = severity.name := by
  have hnodup : (names.map Prod.fst).Nodup := by decide
  rw [lookup_eq_some_iff_mem hnodup, names, List.mem_map]
  constructor
  · rintro ⟨_, -, heq⟩
    cases heq
    rfl
  · rintro rfl
    exact ⟨severity, by cases severity <;> decide, rfl⟩

theorem name_injective : Function.Injective name := by
  intro severity severity' h
  exact Option.some.inj ((lookup_names.mpr rfl).symm.trans (lookup_names.mpr h))

end Severity

namespace Profile

variable {profile : Profile} {found : Option Tree}

/-! ## Which trees are profiles -/

/-- Whether texts are listed at a place, or are the ones that are meant if nothing stands there. -/
inductive Lists (meant : List String) : Option Tree → List String → Prop
  | leftOut : Lists meant none meant
  | written {found : Option Tree} {texts : List String} :
      found.bind Tree.items? = some (texts.map .text) → Lists meant found texts

theorem lists_iff {meant texts : List String} : Lists meant found texts ↔
    found = none ∧ texts = meant ∨
      found ≠ none ∧ found.bind Tree.items? = some (texts.map .text) := by
  constructor
  · rintro (_ | hitems)
    · exact .inl ⟨rfl, rfl⟩
    · refine .inr ⟨?_, hitems⟩
      rintro rfl
      cases hitems
  · rintro (⟨rfl, rfl⟩ | ⟨-, hitems⟩)
    · exact .leftOut
    · exact .written hitems

/-- Whether a profile has a name, fails on something, and exempts nothing by an empty text, which
would stand in every message. -/
structure IsSound (profile : Profile) : Prop where
  name : profile.name ≠ ""
  failOn : profile.failOn ≠ []
  exemptRules : "" ∉ profile.exemptRules
  exemptKeywords : "" ∉ profile.exemptKeywords

/-- What is written at which key of a profile, and that nothing is written at any other. -/
structure WrittenAs (profile : Profile) (entries : List (String × Tree)) : Prop where
  name : entries.lookup "name" = some (.text profile.name)
  description : entries.lookup "description" = profile.description.map .text
  failOn : Lists [Severity.high.name] (entries.lookup "failOn") (profile.failOn.map Severity.name)
  exemptRules : Lists [] (entries.lookup "exemptRules") profile.exemptRules
  exemptKeywords : Lists [] (entries.lookup "exemptKeywords") profile.exemptKeywords
  closed : ∀ entry ∈ entries, entry.1 ∈ keys

/-- Whether a tree is a profile. -/
def Writes (found : Option Tree) (profile : Profile) : Prop :=
  profile.IsSound ∧ ∃ entries, found.bind Tree.entries? = some entries ∧ profile.WrittenAs entries

/-- A list with a default, of which the items are read by the texts that they are written as. -/
theorem withDefault_eq_valid_iff_lists {check : Check (List α)} {meant values : List α}
    {write : α → String} {P : List α → Prop} (hwrite : Function.Injective write) (hmeant : P meant)
    (h : check found = .valid values ↔
      found.bind Tree.items? = some ((values.map write).map .text) ∧ P values) :
    withDefault meant check found = .valid values ↔
      Lists (meant.map write) found (values.map write) ∧ P values := by
  have hmap : values.map write = meant.map write ↔ values = meant :=
    (List.map_injective_iff.mpr hwrite).eq_iff
  rw [withDefault_eq_valid_iff, h, lists_iff, hmap, or_and_right, and_assoc, and_assoc]
  refine or_congr_left (and_congr_right fun _ => (and_iff_left_of_imp ?_).symm)
  rintro rfl
  exact hmeant

theorem exempt_eq_valid_iff {texts : List String} :
    withDefault [] (list nonemptyText) found = .valid texts ↔
      Lists [] found texts ∧ "" ∉ texts := by
  have hitem : ∀ item s, nonemptyText (some item) = .valid s ↔ item = .text s ∧ s ≠ "" := by
    simp [nonemptyText_eq_valid_iff]
  have hnonempty : (∀ s ∈ texts, s ≠ "") ↔ "" ∉ texts :=
    ⟨fun h hmem => h "" hmem rfl, fun h s hs heq => h (heq ▸ hs)⟩
  have hlist : list nonemptyText found = .valid texts ↔
      found.bind Tree.items? = some ((texts.map id).map .text) ∧ "" ∉ texts := by
    rw [List.map_id, ← hnonempty]
    exact list_eq_valid_iff_of_writes hitem
  simpa using withDefault_eq_valid_iff_lists (P := ("" ∉ ·)) Function.injective_id
    List.not_mem_nil hlist

theorem failOn_eq_valid_iff {severities : List Severity} :
    withDefault [.high] (nonemptyList (oneOf Severity.names)) found = .valid severities ↔
      Lists [Severity.high.name] found (severities.map Severity.name) ∧ severities ≠ [] := by
  have hitem : ∀ item severity, oneOf Severity.names (some item) = .valid severity ↔
      item = .text severity.name ∧ True := by
    simp [oneOf_eq_valid_iff, Severity.lookup_names]
  refine withDefault_eq_valid_iff_lists (P := (· ≠ [])) Severity.name_injective
    (List.cons_ne_nil _ _) ?_
  rw [nonemptyList_eq_valid_iff, list_eq_valid_iff_of_writes hitem, List.map_map]
  exact and_congr_left fun _ => and_iff_left fun _ _ => trivial

/-- **A profile is read field by field.** -/
theorem check_eq_valid_iff : check found = .valid profile ↔ Writes found profile := by
  have hmeets : check found = .valid profile ↔ Check.Accepts check (· = profile) found :=
    Checked.meets_eq_iff.symm
  rw [hmeets, check, accepts_object_iff, Writes, ← exists_and_left]
  refine exists_congr fun entries => ?_
  rw [and_left_comm]
  refine and_congr_right fun _ => ?_
  simp only [ofEntries, Checked.meets_seq, Checked.meets_fmap, meets_field]
  constructor
  · rintro ⟨name, hname, description, hdescription, failOn, hfailOn, rules, hrules, keywords,
      hkeywords, _, hclosed, rfl⟩
    obtain ⟨hname, hnamed⟩ := nonemptyText_eq_valid_iff.mp hname
    obtain ⟨hfailOn, hfails⟩ := failOn_eq_valid_iff.mp hfailOn
    obtain ⟨hrules, hnorule⟩ := exempt_eq_valid_iff.mp hrules
    obtain ⟨hkeywords, hnokeyword⟩ := exempt_eq_valid_iff.mp hkeywords
    exact ⟨⟨hnamed, hfails, hnorule, hnokeyword⟩, hname, optional_text_eq_valid_iff.mp hdescription,
      hfailOn, hrules, hkeywords, onlyKeys_eq_valid_iff.mp hclosed⟩
  · rintro ⟨hsound, hwritten⟩
    exact ⟨_, nonemptyText_eq_valid_iff.mpr ⟨hwritten.name, hsound.name⟩,
      _, optional_text_eq_valid_iff.mpr hwritten.description,
      _, failOn_eq_valid_iff.mpr ⟨hwritten.failOn, hsound.failOn⟩,
      _, exempt_eq_valid_iff.mpr ⟨hwritten.exemptRules, hsound.exemptRules⟩,
      _, exempt_eq_valid_iff.mpr ⟨hwritten.exemptKeywords, hsound.exemptKeywords⟩,
      (), onlyKeys_eq_valid_iff.mpr hwritten.closed, rfl⟩

/-- **A sound profile is a profile again** when it is written as data. -/
theorem check_tree (h : profile.IsSound) : check (some profile.tree) = .valid profile := by
  have hentries : ∃ entries, profile.tree.entries? = some entries ∧ profile.WrittenAs entries := by
    obtain ⟨name, description, failOn, rules, keywords⟩ := profile
    cases description
    -- With a description or without one, the keys stand in the order in which they are read.
    all_goals
      refine ⟨_, congrArg some (readingOrder_eq_self (by simp) (by simp +decide)), ?_⟩
      exact ⟨rfl, rfl, .written rfl, .written rfl, .written rfl, by simp [keys]⟩
  exact check_eq_valid_iff.mpr ⟨h, hentries⟩

/-! ## Which profile is chosen -/

section Selection

variable {load : TreeLoader} {tree : FileTree} {known : List String} {name file : Option String}
  {fault : ProfileFault}

theorem isSound_of_mem_builtIn (h : profile ∈ builtIn) : profile.IsSound := by
  simp only [builtIn, List.mem_cons, List.not_mem_nil, or_false] at h
  obtain rfl | rfl | rfl := h
  all_goals exact ⟨by decide, by decide, by decide, by decide⟩

theorem find?_eq_some_iff {name : String} :
    find? name = some profile ↔ profile ∈ builtIn ∧ profile.name = name := by
  have hfound : ∀ profile ∈ builtIn, find? profile.name = some profile := by decide
  constructor
  · intro h
    exact ⟨find?_eq_some h, by simpa using List.find?_some h⟩
  · rintro ⟨hmem, rfl⟩
    exact hfound profile hmem

/-- Whether no file is named. -/
def NamesNoFile (file : Option String) : Prop := file = none ∨ file = some ""

/-- The profile that is chosen by a name and a file, before the rules that it exempts are looked at.
The name does not matter if there is a file. -/
inductive Chosen (load : TreeLoader) (tree : FileTree) (name file : Option String)
    (profile : Profile) : Prop
  | file {path content : String} {found : Option Tree} : file = some path → path ≠ "" →
      tree.read path = .ok content → load path content = .ok found → Writes found profile →
        Chosen load tree name file profile
  | builtIn : NamesNoFile file → profile ∈ builtIn → profile.name = name.getD defaultName →
      Chosen load tree name file profile

/-- What refuses a run its profile. -/
inductive Refuses (load : TreeLoader) (tree : FileTree) (known : List String)
    (name file : Option String) : ProfileFault → Prop
  | unreadable {path : String} {fault : FileFault} : file = some path → path ≠ "" →
      tree.read path = .error fault → Refuses load tree known name file (.unreadable path fault)
  | notLoaded {path content text : String} : file = some path → path ≠ "" →
      tree.read path = .ok content → load path content = .error text →
        Refuses load tree known name file (.notLoaded path text)
  | wrongShape {path content : String} {found : Option Tree} : file = some path → path ≠ "" →
      tree.read path = .ok content → load path content = .ok found →
        (∀ profile, ¬ Writes found profile) →
          Refuses load tree known name file (.wrongShape path (check found).issues)
  | unknownName : NamesNoFile file → (∀ profile ∈ builtIn, profile.name ≠ name.getD defaultName) →
      Refuses load tree known name file (.unknownName (name.getD defaultName))
  /-- The profile is there, but exempts something that is not known. -/
  | unknownRules {profile : Profile} : Chosen load tree name file profile →
      ¬ profile.exemptRules ⊆ known → Refuses load tree known name file
        (.unknownRules profile.name (profile.exemptRules.filter (· ∉ known)))

/-! ## Selecting it -/

theorem pick_of_namesNoFile (h : NamesNoFile file) : pick load tree name file =
    (find? (name.getD defaultName)).elim (.error (.unknownName (name.getD defaultName))) .ok := by
  have hnone : file.filter (· != "") = none := by
    obtain rfl | rfl := h <;> rfl
  rw [pick, hnone]
  cases hfound : find? (name.getD defaultName) <;> simp [hfound]

/-- **What is chosen is picked.** -/
theorem pick_of_chosen (h : Chosen load tree name file profile) :
    pick load tree name file = .ok profile := by
  cases h with
  | file hfile hpath hread hload hwrites =>
    rw [hfile, pick_file hpath, Profile.load, hread]
    simp only [hload, check_eq_valid_iff.mpr hwrites]
  | builtIn hfile hmem hname =>
    rw [pick_of_namesNoFile hfile, find?_eq_some_iff.mpr ⟨hmem, hname⟩]
    rfl

theorem select_of_pick (h : pick load tree name file = .ok profile) :
    select load tree known name file = if profile.exemptRules ⊆ known then .ok profile else
      .error (.unknownRules profile.name (profile.exemptRules.filter (· ∉ known))) := by
  have hunknown : (profile.exemptRules.filter fun id => !known.contains id) =
      profile.exemptRules.filter (· ∉ known) := by simp
  have hnone : profile.exemptRules.filter (· ∉ known) = [] ↔ profile.exemptRules ⊆ known := by
    simp [List.filter_eq_nil_iff, List.subset_def]
  rw [select, h]
  simp only [bind, Except.bind, hunknown, ← hnone]
  cases profile.exemptRules.filter (· ∉ known) <;> simp

/-- **A reason ends the selection**, and it is what is reported. -/
theorem select_of_refuses (h : Refuses load tree known name file fault) :
    select load tree known name file = .error fault := by
  have hpicked : ∀ {fault}, pick load tree name file = .error fault →
      select load tree known name file = .error fault := by
    intro fault hpick
    rw [select, hpick]
    rfl
  cases h with
  | unreadable hfile hpath hread =>
    rw [hfile, select_unreadable hpath hread]
  | notLoaded hfile hpath hread hload =>
    refine hpicked ?_
    rw [hfile, pick_file hpath, Profile.load, hread]
    simp only [hload]
  | @wrongShape path content found hfile hpath hread hload hnone =>
    refine hpicked ?_
    rw [hfile, pick_file hpath, Profile.load, hread]
    simp only [hload]
    cases hcheck : check found with
    | valid profile => exact absurd (check_eq_valid_iff.mp hcheck) (hnone profile)
    | flawed issues => rfl
    | mismatched issues => rfl
  | unknownName hfile hnone =>
    refine hpicked ?_
    have hfound : find? (name.getD defaultName) = none := by
      refine Option.eq_none_iff_forall_ne_some.mpr fun profile hfound => ?_
      obtain ⟨hmem, hname⟩ := find?_eq_some_iff.mp hfound
      exact hnone profile hmem hname
    rw [pick_of_namesNoFile hfile, hfound]
    rfl
  | unknownRules hchosen hunknown =>
    rw [select_of_pick (pick_of_chosen hchosen), if_neg hunknown]

/-- If no profile is chosen there is a reason. -/
theorem exists_refuses_of_not_chosen (h : ∀ profile, ¬ Chosen load tree name file profile) :
    ∃ fault, Refuses load tree known name file fault := by
  by_cases hfile : NamesNoFile file
  · refine ⟨_, .unknownName hfile fun profile hmem hname => ?_⟩
    exact h profile (.builtIn hfile hmem hname)
  · -- The reasons of a file come in the order in which it is read, loaded and checked.
    obtain ⟨path, rfl⟩ := Option.ne_none_iff_exists'.mp (mt .inl hfile)
    have hpath : path ≠ "" := fun hempty => hfile (.inr (congrArg some hempty))
    cases hread : tree.read path with
    | error fault => exact ⟨_, .unreadable rfl hpath hread⟩
    | ok content =>
      cases hload : load path content with
      | error text => exact ⟨_, .notLoaded rfl hpath hread hload⟩
      | ok found =>
        refine ⟨_, .wrongShape rfl hpath hread hload fun profile hwrites => ?_⟩
        exact h profile (.file rfl hpath hread hload hwrites)

/-- Either a profile is chosen, and exempts known rules, or there is a reason. -/
theorem chosen_or_refuses (load : TreeLoader) (tree : FileTree) (known : List String)
    (name file : Option String) :
    (∃ profile, Chosen load tree name file profile ∧ profile.exemptRules ⊆ known) ∨
      ∃ fault, Refuses load tree known name file fault := by
  by_cases hchosen : ∃ profile, Chosen load tree name file profile
  · obtain ⟨profile, hchosen⟩ := hchosen
    by_cases hknown : profile.exemptRules ⊆ known
    · exact .inl ⟨profile, hchosen, hknown⟩
    · exact .inr ⟨_, .unknownRules hchosen hknown⟩
  · exact .inr (exists_refuses_of_not_chosen (not_exists.mp hchosen))

theorem select_eq_ok_iff : select load tree known name file = .ok profile ↔
    Chosen load tree name file profile ∧ profile.exemptRules ⊆ known := by
  constructor
  · intro h
    obtain ⟨other, hchosen, hknown⟩ | ⟨fault, hrefuses⟩ :=
      chosen_or_refuses load tree known name file
    · rw [select_of_pick (pick_of_chosen hchosen), if_pos hknown] at h
      cases h
      exact ⟨hchosen, hknown⟩
    · cases h.symm.trans (select_of_refuses hrefuses)
  · rintro ⟨hchosen, hknown⟩
    rw [select_of_pick (pick_of_chosen hchosen), if_pos hknown]

theorem select_eq_error_iff : select load tree known name file = .error fault ↔
    Refuses load tree known name file fault := by
  refine ⟨fun h => ?_, select_of_refuses⟩
  obtain ⟨profile, hselected⟩ | ⟨fault', hrefuses⟩ := chosen_or_refuses load tree known name file
  · cases h.symm.trans (select_eq_ok_iff.mpr hselected)
  · cases h.symm.trans (select_of_refuses hrefuses)
    exact hrefuses

theorem Chosen.isSound (h : Chosen load tree name file profile) : profile.IsSound := by
  cases h with
  | file _ _ _ _ hwrites => exact hwrites.1
  | builtIn _ hmem _ => exact isSound_of_mem_builtIn hmem

/-- How the profile of a run is resolved: which one is selected and when, and for what reason none
is. -/
structure Resolves (load : TreeLoader) (tree : FileTree) (known : List String)
    (name file : Option String) : Prop where
  selected : ∀ profile, select load tree known name file = .ok profile ↔
    Chosen load tree name file profile ∧ profile.exemptRules ⊆ known
  /-- What is selected is sound: it could be written to a file and selected from there. -/
  sound : ∀ profile, select load tree known name file = .ok profile →
    profile.IsSound ∧ check (some profile.tree) = .valid profile
  refused : ∀ fault, select load tree known name file = .error fault ↔
    Refuses load tree known name file fault
  /-- Whatever the reason is, it is a fault of the policy that comes with advice. -/
  advised : (¬ ∃ profile, Chosen load tree name file profile ∧ profile.exemptRules ⊆ known) →
    ∃ fault guidance, select load tree known name file = .error fault ∧
      fault.cause = .policy fault.message (some guidance) ∧
      guidance.message.isSome ∧ guidance.resolution.isSome
  /-- If only the rules are at fault, all unknown ones are listed, as the profile has them. -/
  listed : ∀ profile, Chosen load tree name file profile → ¬ profile.exemptRules ⊆ known →
    ∃ fault guidance, select load tree known name file = .error fault ∧
      fault.cause = .policy ("Policy profile '" ++ profile.name ++ "' exempts unknown rules: " ++
        Text.joined ", " (profile.exemptRules.filter (· ∉ known))) (some guidance) ∧
      guidance.details =
        some (.mapping [("unknown", .texts (profile.exemptRules.filter (· ∉ known)))])

/-- **A run has the profile that is chosen, or a reason why it has none.** -/
theorem resolves (load : TreeLoader) (tree : FileTree) (known : List String)
    (name file : Option String) : Resolves load tree known name file where
  selected := fun _ => select_eq_ok_iff
  sound := by
    intro profile h
    have hsound : profile.IsSound := (select_eq_ok_iff.mp h).1.isSound
    exact ⟨hsound, check_tree hsound⟩
  refused := fun _ => select_eq_error_iff
  advised := by
    intro h
    obtain hselected | ⟨fault, hrefuses⟩ := chosen_or_refuses load tree known name file
    · exact absurd hselected h
    · refine ⟨fault, fault.guidance, select_of_refuses hrefuses, rfl, ?_⟩
      cases fault <;> exact ⟨rfl, rfl⟩
  listed := fun _ hchosen hunknown =>
    ⟨_, _, select_of_refuses (.unknownRules hchosen hunknown), rfl, rfl⟩

/-- The file wins over the name, and every unknown rule in it is listed where it stands. -/
example :
    let misspelt : Tree := .mapping [("name", .text "team"),
      ("exemptRules", .texts ["host-net", "host-network", "host-net"])]
    select (fun _ _ => .ok (some misspelt)) ⟨["work"], [(["work", "team.yml"], "")], []⟩
      ["host-network"] (some "strict") (some "team.yml") =
        .error (.unknownRules "team" ["host-net", "host-net"]) := rfl

end Selection

end Profile

end ComposeLint
