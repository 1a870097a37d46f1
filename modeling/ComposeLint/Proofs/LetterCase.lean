import ComposeLint.Proofs.SmallLetters

/-!
# Words in any case

A search that puts a text into small letters first finds a word in any case. That is what it is
meant for, and for most words it is all that it finds (`infix_lower_iff`): beyond ASCII no character
becomes a letter of ASCII but the Kelvin sign, and the dotted capital I, which leaves a mark behind
its letter. So a word without a `k` and without an `i` at its end cannot reach over what is not in
ASCII, and neither can it reach over any other character that it does not have
(`infix_append_cons_iff`).
-/

namespace ComposeLint.Text

variable {word text xs ys : List Char} {c sep : Char}

/-! ## Words and what stands between them -/

/-- **A word does not reach over what is not in it.** -/
theorem infix_append_cons_iff (h : sep ∉ word) :
    word <:+: xs ++ sep :: ys ↔ word <:+: xs ∨ word <:+: ys := by
  constructor
  · rintro ⟨before, after, heq⟩
    rw [List.append_assoc] at heq
    obtain ⟨others, rfl, hrest⟩ | ⟨others, rfl, hrest⟩ := List.append_eq_append_iff.mp heq
    · -- The word begins before the character, and so it ends there.
      obtain ⟨rest, rfl, -⟩ | ⟨rest, rfl, hsep⟩ := List.append_eq_append_iff.mp hrest
      · exact .inl ⟨before, rest, List.append_assoc _ _ _⟩
      · cases rest with
        | nil => exact .inl ⟨before, [], by simp⟩
        | cons first rest =>
          obtain ⟨rfl, -⟩ := List.cons.inj hsep
          exact absurd (List.mem_append_right _ List.mem_cons_self) h
    · cases others with
      | nil =>
        cases word with
        | nil => exact .inl List.nil_infix
        | cons first rest =>
          obtain ⟨rfl, -⟩ := List.cons.inj hrest
          exact absurd List.mem_cons_self h
      | cons first others =>
        obtain ⟨-, rfl⟩ := List.cons.inj hrest
        exact .inr ⟨others, after, List.append_assoc _ _ _⟩
  · rintro (hbefore | hafter)
    · exact hbefore.trans (List.prefix_append _ _).isInfix
    · exact hafter.trans ⟨xs ++ [sep], [], by simp⟩

/-- Whether a text has a word in it, whatever the case of its letters. -/
def HasWord (word text : List Char) : Prop := word <:+: text.map Char.toLower

instance : DecidableRel HasWord := fun word text =>
  inferInstanceAs (Decidable (word <:+: text.map Char.toLower))

/-- A word in small letters that a text has as it is. -/
theorem HasWord.of_isInfix (hsmall : word.map Char.toLower = word) (h : word <:+: text) :
    HasWord word text := by
  rw [HasWord, ← hsmall]
  exact h.map _

theorem HasWord.append_right (h : HasWord word xs) (ys : List Char) : HasWord word (xs ++ ys) := by
  rw [HasWord, List.map_append]
  exact List.IsInfix.trans h (List.prefix_append _ _).isInfix

theorem hasWord_append_cons_iff (h : sep.toLower ∉ word) :
    HasWord word (xs ++ sep :: ys) ↔ HasWord word xs ∨ HasWord word ys := by
  rw [HasWord, List.map_append, List.map_cons, infix_append_cons_iff h]
  rfl

/-- A label without the word adds nothing to it if it ends in a character that the word does not
have.
-/
theorem hasWord_label_append {label : List Char} (hlabel : ¬ HasWord word label)
    (hlast : label.getLast?.all (·.toLower ∉ word) = true) :
    HasWord word (label ++ text) ↔ HasWord word text := by
  obtain rfl | ⟨start, sep, rfl⟩ := label.eq_nil_or_concat
  · rw [List.nil_append]
  · rw [List.concat_eq_append] at hlabel hlast ⊢
    have hstart : ¬ HasWord word start := fun h => hlabel (h.append_right [sep])
    rw [List.append_assoc, List.singleton_append, hasWord_append_cons_iff (by simpa using hlast)]
    exact or_iff_right hstart

/-! ## Words in small letters -/

/-- A word of ASCII, of which no letter can come from elsewhere. -/
structure IsAsciiWord (word : List Char) : Prop where
  ascii : ∀ c ∈ word, c.toNat < 0x80
  /-- The Kelvin sign becomes this letter. -/
  kelvin : 'k' ∉ word
  /-- The dotted capital I becomes this letter with a mark behind it. -/
  dotted : word.getLast? ≠ some 'i'

/-- No run but that of the Kelvin sign maps into ASCII. -/
theorem smallRuns_avoids_ascii : ∀ run ∈ smallRuns,
    run.avoids 0 0x7F = true ∨ run.first = run.last ∧ run.image run.first = 'k'.toNat := by
  decide +kernel

/-- What a character beyond ASCII becomes. -/
theorem lowerChar_of_not_ascii (h : ¬ c.toNat < 0x80) :
    ∃ first last, lowerChar c = first ++ [last] ∧ (first = [] ∨ first = ['i']) ∧
      (last = 'k' ∨ ¬ last.toNat < 0x80) := by
  rw [lowerChar, if_neg h, mapCase]
  split
  · next image himage =>
    have hlist : image = [0x69, 0x307] := by
      rw [smallSequences, List.lookup_cons] at himage
      split at himage
      · exact (Option.some.inj himage).symm
      · cases himage
    subst hlist
    exact ⟨['i'], '\u0307', rfl, .inr rfl, .inr (by decide)⟩
  · split
    · next m hm =>
      obtain ⟨run, hrun, happly⟩ := List.exists_of_findSome?_eq_some hm
      obtain ⟨⟨hfirst, hlast, -⟩, rfl⟩ := CaseRun.maps_iff.mp happly
      refine ⟨[], _, rfl, .inl rfl, ?_⟩
      obtain havoids | ⟨hone, hkelvin⟩ := smallRuns_avoids_ascii run hrun
      · have hbeyond := CaseRun.not_mem_of_avoids havoids hfirst hlast
        have hpoint := toNat_ofNat_image hrun hfirst hlast
        exact .inr (by omega)
      · have hfirst : c.toNat = run.first := by omega
        rw [hfirst, hkelvin]
        exact .inl (Char.ofNat_toNat _)
    · exact ⟨[], c, rfl, .inl rfl, .inr h⟩

theorem lowerAfter_cons_of_ascii (h : c.toNat < 0x80) (before rest : List Char) :
    lowerAfter before (c :: rest) = c.toLower :: lowerAfter (c :: before) rest := by
  have hsigma : c ≠ 'Σ' := by
    rintro rfl
    exact absurd h (by decide)
  simp [lowerAfter, lowerChar, hsigma, h]

theorem lowerAfter_cons_of_not_ascii (h : ¬ c.toNat < 0x80) (before rest : List Char) :
    ∃ first last, lowerAfter before (c :: rest) = first ++ last :: lowerAfter (c :: before) rest ∧
      (first = [] ∨ first = ['i']) ∧ (last = 'k' ∨ ¬ last.toNat < 0x80) := by
  rw [lowerAfter]
  split
  · exact ⟨[], 'ς', rfl, .inl rfl, .inr (by decide)⟩
  · obtain ⟨first, last, hsmall, hforms⟩ := lowerChar_of_not_ascii h
    exact ⟨first, last, by rw [hsmall]; simp, hforms⟩

/-- A letter that a word does not end in is of no use to it at the end of a text. -/
theorem IsAsciiWord.infix_concat_iff (h : IsAsciiWord word) :
    word <:+: xs ++ ['i'] ↔ word <:+: xs := by
  refine ⟨fun hoccurs => ?_, fun hoccurs => hoccurs.trans (List.prefix_append _ _).isInfix⟩
  obtain hsuffix | hinfix := List.infix_concat_iff.mp hoccurs
  · obtain rfl | ⟨init, last, rfl⟩ := word.eq_nil_or_concat
    · exact List.nil_infix
    · obtain ⟨before, heq⟩ := hsuffix
      rw [List.concat_eq_append, ← List.append_assoc] at heq
      obtain ⟨-, hlast⟩ := List.append_inj' heq rfl
      obtain rfl : last = 'i' := List.singleton_inj.mp hlast
      exact absurd (by simp) h.dotted
  · exact hinfix

/-- **In small letters a text has the words that it has in any case.** -/
theorem infix_lower_iff (h : IsAsciiWord word) : word <:+: lower text ↔ HasWord word text := by
  -- What has been read stays in front, because a word may begin in it.
  have key : ∀ (text seen before : List Char),
      word <:+: seen ++ lowerAfter before text ↔ word <:+: seen ++ text.map Char.toLower := by
    intro text
    induction text with
    | nil => intro seen before; rfl
    | cons c rest ih =>
      intro seen before
      by_cases hascii : c.toNat < 0x80
      · have hrest := ih (seen ++ [c.toLower]) (c :: before)
        rw [List.append_assoc, List.append_assoc] at hrest
        rw [lowerAfter_cons_of_ascii hascii]
        exact hrest
      · obtain ⟨first, last, hsmall, hfirst, hlast⟩ :=
          lowerAfter_cons_of_not_ascii hascii before rest
        have hforeign : last ∉ word := by
          rcases hlast with rfl | hlast
          · exact h.kelvin
          · exact fun hmem => hlast (h.ascii _ hmem)
        have hseen : word <:+: seen ++ first ↔ word <:+: seen := by
          rcases hfirst with rfl | rfl
          · rw [List.append_nil]
          · exact h.infix_concat_iff
        have hrest := ih [] (c :: before)
        rw [List.nil_append, List.nil_append] at hrest
        rw [hsmall, ← List.append_assoc, infix_append_cons_iff hforeign, hseen, hrest,
          List.map_cons, toLower_eq_self hascii,
          infix_append_cons_iff fun hmem => hascii (h.ascii _ hmem)]
  exact key text [] []

/-- **A search in a text in small letters finds a word in any case.** -/
theorem contains_lowered_iff {word text : String} (h : IsAsciiWord word.toList) :
    contains (lowered text) word = true ↔ HasWord word.toList text.toList := by
  rw [← infix_lower_iff h, contains, lowered, String.toList_ofList, occursIn_iff, List.IsInfix]
  simp only [eq_comm]

end ComposeLint.Text
