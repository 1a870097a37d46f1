import ComposeLint.Discovery
import Mathlib.Data.List.Basic

/-!
# When the search for manifests fails

The patterns of manifests are fixed, and they can be read. Each of them is a name, or begins with
`**` and makes the search read the directory that it starts from; and that directory is never
ignored. So the search can fail at this directory only, and it does exactly when there is a null
character in its path (`exists_manifests_eq_error_iff`).
-/

namespace ComposeLint.Discovery

variable {ignored : List Ignored} {pattern : Pattern}

/-! ## The place that a search starts from -/

theorem relativeNames_self (origin : Place) : relativeNames origin origin = [] := by
  induction origin with
  | nil => rfl
  | cons name rest ih => simp [relativeNames, ih]

/-- Whether something relative may close the place that a search starts from. -/
def Ignored.sparesOrigin (one : Ignored) : Bool := !one.isAbsolute && !one.covers [".", ""]

/-- What spares it does not close it, wherever it is. -/
theorem isClosed_origin (h : ∀ one ∈ ignored, one.sparesOrigin = true) (origin : Place) :
    isClosed ignored origin origin = false := by
  rw [isClosed, List.any_eq_false]
  intro one hone
  have hspares := h one hone
  simp only [Ignored.sparesOrigin, Bool.and_eq_true, Bool.not_eq_true'] at hspares
  simp [hspares.1, hspares.2, shownNames, relativeNames_self]

namespace Pattern

/-- Whether a pattern is a name. -/
def isName (pattern : Pattern) : Bool :=
  !pattern.isAbsolute && match pattern.parts with | [.name _] => true | _ => false

/-- Whether a pattern looks at every depth. -/
def isDeep (pattern : Pattern) : Bool :=
  !pattern.isAbsolute && match pattern.parts with | .anyDepth :: _ => true | _ => false

end Pattern

namespace Search

/-- For a name, no directory is read. -/
theorem firstRead?_of_isName (search : Search) (h : pattern.isName = true) :
    search.firstRead? pattern = none := by
  rw [Pattern.isName, Bool.and_eq_true, Bool.not_eq_true'] at h
  obtain ⟨habsolute, hparts⟩ := h
  split at hparts
  · next hname => simp [firstRead?, habsolute, hname, advanced]
  · cases hparts

/-- For any depth, the directory is read that the search starts from. -/
theorem firstRead?_of_isDeep (search : Search) (h : pattern.isDeep = true)
    (hclosed : isClosed search.ignored search.origin search.origin = false) :
    search.firstRead? pattern = some search.origin := by
  rw [Pattern.isDeep, Bool.and_eq_true, Bool.not_eq_true'] at h
  obtain ⟨habsolute, hparts⟩ := h
  split at hparts
  · next hdeep => simp [firstRead?, habsolute, hclosed, hdeep, advanced]
  · cases hparts

/-- **A search by names and at any depth fails at its origin only.** -/
theorem fault?_eq_nullFault? (search : Search) {patterns : List Pattern}
    (hpatterns : ∀ pattern ∈ patterns, pattern.isName = true ∨ pattern.isDeep = true)
    (hdeep : ∃ pattern ∈ patterns, pattern.isDeep = true)
    (hclosed : isClosed search.ignored search.origin search.origin = false) :
    search.fault? patterns = FileTree.nullFault? (FileTree.pathOf search.origin) := by
  have horigin : ∀ place ∈ patterns.filterMap search.firstRead?, place = search.origin := by
    intro place hplace
    obtain ⟨pattern, hpattern, hread⟩ := List.mem_filterMap.mp hplace
    rcases hpatterns pattern hpattern with hname | hdeep
    · rw [search.firstRead?_of_isName hname] at hread
      cases hread
    · rw [search.firstRead?_of_isDeep hdeep hclosed] at hread
      exact (Option.some.inj hread).symm
  obtain ⟨pattern, hpattern, hisDeep⟩ := hdeep
  have hmem : search.origin ∈ patterns.filterMap search.firstRead? :=
    List.mem_filterMap.mpr ⟨pattern, hpattern, search.firstRead?_of_isDeep hisDeep hclosed⟩
  -- The directories that are read first are the origin, at least once.
  rw [fault?, List.eq_replicate_of_mem horigin, List.findSome?_replicate,
    if_neg (Nat.ne_of_gt (List.length_pos_of_mem hmem))]

end Search

/-! ## Manifests -/

/-- Whether patterns and what is ignored are as the search for manifests has them. -/
def isManifestSearch : List Pattern × List Ignored → Bool
  | (patterns, ignored) =>
    patterns.all (fun pattern => pattern.isName || pattern.isDeep) && patterns.any Pattern.isDeep &&
      ignored.all Ignored.sparesOrigin

theorem readPatterns_manifests :
    (readPatterns manifestPatterns ignoredPatterns).toOption.any isManifestSearch = true := by
  decide +kernel

/-- **The search for manifests fails** exactly when there is a null character in the path of the
place that it starts from. -/
theorem exists_manifests_eq_error_iff (tree : FileTree) (origin : Place) :
    (∃ fault, manifests tree origin = .error fault) ↔
      '\x00' ∈ (FileTree.pathOf origin).toList := by
  have hread := readPatterns_manifests
  rw [manifests, find]
  cases hfound : readPatterns manifestPatterns ignoredPatterns with
  | error fault => simp [hfound, Except.toOption] at hread
  | ok found =>
    obtain ⟨patterns, ignored⟩ := found
    rw [hfound] at hread
    simp only [Except.toOption, Option.any_some, isManifestSearch, Bool.and_eq_true,
      List.all_eq_true, List.any_eq_true, Bool.or_eq_true] at hread
    obtain ⟨⟨hpatterns, hdeep⟩, hspares⟩ := hread
    have hfault := Search.fault?_eq_nullFault? ⟨tree, origin, ignored⟩ hpatterns hdeep
      (isClosed_origin hspares origin)
    simp only [Except.mapError, bind, Except.bind, hfault, FileTree.nullFault?]
    by_cases hnull : (FileTree.pathOf origin).toList.contains '\x00' = true
    · rw [if_pos hnull]
      exact ⟨fun _ => List.contains_iff_mem.mp hnull, fun _ => ⟨_, rfl⟩⟩
    · rw [if_neg hnull]
      exact ⟨(fun h => by obtain ⟨_, h⟩ := h; cases h),
        fun h => absurd (List.contains_iff_mem.mpr h) hnull⟩

end ComposeLint.Discovery
