import ComposeLint.Proofs.Canonical
import ComposeLint.Proofs.Closed
import ComposeLint.Text.Case

/-!
# Texts in small letters

Putting a text into small letters leaves a word alone that is in small letters already (`IsSmall`),
and what it gives is such a word: so doing it twice changes nothing more (`lower_lower`). This is
a fact about the runs of the case mapping, none of which maps onto a code point that another one
maps on (`smallRuns_spares`). What a character becomes is never a part of the syntax of
substitutions and never a blank, so a slash cuts the new text nowhere if it cuts the old one nowhere
(`uncut_lower`), and the last character stays none that is trimmed. Only the capital sigma looks
around itself, and no further than the brace of a group: a group becomes the same text wherever it
stands (`group_infix_lower`).
-/

namespace ComposeLint

namespace Text

variable {c d : Char} {cs word text : List Char}

/-! ## Words in small letters -/

/-- A word in small letters that has no character whose small form depends on its place. -/
def IsSmall (word : List Char) : Prop := ∀ c ∈ word, c ≠ 'Σ' ∧ lowerChar c = [c]

instance : DecidablePred IsSmall :=
  List.decidableBAll fun c => c ≠ 'Σ' ∧ lowerChar c = [c]

theorem lowerAfter_append_of_isSmall (h : IsSmall word) (before after : List Char) :
    lowerAfter before (word ++ after) = word ++ lowerAfter (word.reverse ++ before) after := by
  induction word generalizing before with
  | nil => rfl
  | cons c rest ih =>
    obtain ⟨⟨hsigma, hchar⟩, hrest⟩ := List.forall_mem_cons.mp h
    rw [List.cons_append, lowerAfter, ih hrest, hchar]
    simp [hsigma]

theorem lower_eq_self (h : IsSmall word) : lower word = word := by
  have hlower := lowerAfter_append_of_isSmall h [] []
  rwa [List.append_nil, lowerAfter, List.append_nil] at hlower

/-- What follows a text is put into small letters after it. -/
theorem exists_lowerAfter_append (before first rest : List Char) :
    ∃ small, lowerAfter before (first ++ rest) =
      small ++ lowerAfter (first.reverse ++ before) rest := by
  induction first generalizing before with
  | nil => exact ⟨[], rfl⟩
  | cons c first ih =>
    obtain ⟨small, hsmall⟩ := ih (c :: before)
    refine ⟨(if c == 'Σ' && endsWord before (first ++ rest) then ['ς'] else lowerChar c) ++ small,
      ?_⟩
    rw [List.cons_append, lowerAfter, hsmall]
    simp

/-- **A small word of a text is a word of the text in small letters**, whatever is around it. -/
theorem IsSmall.infix_lower (h : IsSmall word) (hoccurs : word <:+: text) :
    word <:+: lower text := by
  obtain ⟨before, after, rfl⟩ := hoccurs
  obtain ⟨small, hsmall⟩ := exists_lowerAfter_append [] before (word ++ after)
  rw [lower, List.append_assoc, hsmall, lowerAfter_append_of_isSmall h]
  exact ⟨small, _, List.append_assoc _ _ _⟩

/-- `Char.toLower` changes nothing outside of ASCII. -/
theorem toLower_eq_self (h : ¬ c.toNat < 0x80) : c.toLower = c := by
  refine dif_neg ?_
  rintro ⟨-, hle⟩
  exact h (Nat.lt_of_le_of_lt (UInt32.le_iff_toNat_le.mp hle) (by decide))

/-! ## What a run maps to -/

namespace CaseRun

variable {run other : CaseRun} {n : Nat}

/-- What a run maps a code point to. -/
def image (run : CaseRun) (n : Nat) : Nat := (n + run.shift).toNat

/-- Whether a run maps nothing into a range. -/
def avoids (run : CaseRun) (first last : Nat) : Bool :=
  Nat.blt (run.image run.last) first || Nat.blt last (run.image run.first)

/-- Whether a run maps nothing onto another one: what it maps to lies aside of the other one, or
between its code points. -/
def spares (run other : CaseRun) : Bool :=
  run.avoids other.first other.last ||
    other.stride == 2 && (run.stride == 2 || run.first == run.last) &&
      (run.image run.first - other.first) % 2 == 1

theorem maps_iff {m : Nat} : run.apply? n = some m ↔
    (run.first ≤ n ∧ n ≤ run.last ∧ (n - run.first) % run.stride = 0) ∧ run.image n = m := by
  unfold CaseRun.apply? image
  rw [Option.ite_none_right_eq_some, Option.some.injEq]

theorem not_mem_of_avoids {first last : Nat} (h : run.avoids first last = true)
    (hfirst : run.first ≤ n) (hlast : n ≤ run.last) :
    ¬ (first ≤ run.image n ∧ run.image n ≤ last) := by
  simp only [avoids, image, Bool.or_eq_true, Nat.blt_eq] at h ⊢
  omega

theorem keeps_of_spares (h : run.spares other = true) {m : Nat}
    (hn : run.apply? n = some m) : other.apply? m = none := by
  obtain ⟨⟨hfirst, hlast, hstride⟩, rfl⟩ := maps_iff.mp hn
  rw [Option.eq_none_iff_forall_ne_some]
  intro k hk
  obtain ⟨⟨hfirst', hlast', hstride'⟩, -⟩ := maps_iff.mp hk
  rw [spares, Bool.or_eq_true] at h
  rcases h with havoids | hbetween
  · exact not_mem_of_avoids havoids hfirst hlast ⟨hfirst', hlast'⟩
  · -- The code points of the other run are all even steps from its first, and this one is odd.
    simp only [Bool.and_eq_true, Bool.or_eq_true, beq_iff_eq] at hbetween
    obtain ⟨⟨hother, hrun⟩, hodd⟩ := hbetween
    rw [hother] at hstride'
    have heven : (n - run.first) % 2 = 0 := by
      rcases hrun with htwo | hone
      · rwa [htwo] at hstride
      · omega
    simp only [image] at *
    omega

end CaseRun

/-- **No run maps onto a code point that is mapped on.** -/
theorem smallRuns_spares : smallRuns.all (fun run => smallRuns.all run.spares) = true := by
  decide +kernel

/-- Where no small letter lies: before and behind those of ASCII, the one capital that becomes two
characters, the blanks, and what is no character. -/
def letterless : List (Nat × Nat) :=
  [(0, 0x60), (0x7B, 0xDE), (0x130, 0x130), (0x1680, 0x1680), (0x2000, 0x206F), (0x3000, 0x3000),
    (0xD800, 0xDFFF), (0xFEFF, 0xFEFF)]

theorem smallRuns_avoids :
    ∀ run ∈ smallRuns, (∀ range ∈ letterless, run.avoids range.1 range.2 = true) ∧
      run.image run.last < 0x110000 := by
  decide +kernel

/-! ## What a character becomes -/

/-- What a character becomes when it becomes something else: a character that stays as it is, and is
neither a blank nor, in ASCII, anything but a letter. -/
structure IsSmallForm (d : Char) : Prop where
  stays : lowerChar d = [d]
  isBlank : isBlank d = false
  letter : 0x61 ≤ d.toNat ∧ d.toNat ≤ 0x7A ∨ 0xDF ≤ d.toNat

instance : DecidablePred IsSmallForm := fun d =>
  decidable_of_iff (lowerChar d = [d] ∧ Text.isBlank d = false ∧
      (0x61 ≤ d.toNat ∧ d.toNat ≤ 0x7A ∨ 0xDF ≤ d.toNat))
    ⟨fun ⟨hstays, hblank, hletter⟩ => ⟨hstays, hblank, hletter⟩,
      fun ⟨hstays, hblank, hletter⟩ => ⟨hstays, hblank, hletter⟩⟩

/-- A text of such characters that is not empty. -/
def AreSmallForms (cs : List Char) : Prop := cs ≠ [] ∧ ∀ d ∈ cs, IsSmallForm d

instance : DecidablePred AreSmallForms := fun cs =>
  @instDecidableAnd _ _ inferInstance (List.decidableBAll IsSmallForm cs)

/-- What holds of all ASCII characters is checked one by one. -/
theorem forall_ascii {P : Char → Prop} (h : ∀ n < 0x80, P (Char.ofNat n)) (hc : c.toNat < 0x80) :
    P c := by
  have hn := h c.toNat hc
  rwa [Char.ofNat_toNat] at hn

theorem isSmallForm_ascii (hc : c.toNat < 0x80) (hletter : 0x61 ≤ c.toNat ∧ c.toNat ≤ 0x7A) :
    IsSmallForm c :=
  forall_ascii (P := fun c => 0x61 ≤ c.toNat ∧ c.toNat ≤ 0x7A → IsSmallForm c)
    (by decide +kernel) hc hletter

/-- A character that no run maps on and that is not letterless. -/
theorem isSmallForm_of_kept (hruns : ∀ run ∈ smallRuns, run.apply? d.toNat = none)
    (hplace : ∀ range ∈ letterless, ¬ (range.1 ≤ d.toNat ∧ d.toNat ≤ range.2)) :
    IsSmallForm d := by
  simp only [letterless, List.forall_mem_cons, List.not_mem_nil, false_imp_iff, implies_true,
    and_true] at hplace
  by_cases hascii : d.toNat < 0x80
  · exact isSmallForm_ascii hascii (by omega)
  · have hrun : smallRuns.findSome? (fun run => run.apply? d.toNat) = none :=
      List.findSome?_eq_none_iff.mpr hruns
    have hsequence : smallSequences.lookup d.toNat = none := by
      have hne : (d.toNat == 0x130) = false := beq_eq_false_iff_ne.mpr (by omega)
      simp [smallSequences, List.lookup_cons, hne]
    refine ⟨?_, ?_, by omega⟩
    · rw [lowerChar, if_neg hascii, mapCase, hsequence]
      simp only [hrun]
    · simp only [Text.isBlank, Bool.or_eq_false_iff, Bool.and_eq_false_iff, decide_eq_false_iff_not,
        beq_eq_false_iff_ne]
      omega

/-- A run maps to code points. -/
theorem toNat_ofNat_image {run : CaseRun} (hrun : run ∈ smallRuns) {n : Nat}
    (hfirst : run.first ≤ n) (hlast : n ≤ run.last) :
    (Char.ofNat (run.image n)).toNat = run.image n := by
  obtain ⟨havoids, hbound⟩ := smallRuns_avoids run hrun
  have hvalid : (run.image n).isValidChar := by
    have hsurrogates :=
      CaseRun.not_mem_of_avoids (havoids (0xD800, 0xDFFF) (by decide)) hfirst hlast
    simp only [CaseRun.image] at *
    simp only [Nat.isValidChar]
    omega
  rw [Char.ofNat, dif_pos hvalid]
  rfl

/-- **What a run maps to is a small form.** -/
theorem isSmallForm_of_mem_smallRuns {run : CaseRun} (hrun : run ∈ smallRuns) {n m : Nat}
    (h : run.apply? n = some m) : IsSmallForm (Char.ofNat m) := by
  obtain ⟨⟨hfirst, hlast, -⟩, rfl⟩ := CaseRun.maps_iff.mp h
  have hplace : ∀ range ∈ letterless, ¬ (range.1 ≤ run.image n ∧ run.image n ≤ range.2) :=
    fun range hrange =>
      CaseRun.not_mem_of_avoids ((smallRuns_avoids run hrun).1 range hrange) hfirst hlast
  have hpoint := toNat_ofNat_image hrun hfirst hlast
  refine isSmallForm_of_kept (fun other hother => ?_) (by rwa [hpoint])
  rw [hpoint]
  have hspares : run.spares other = true :=
    List.all_eq_true.mp (List.all_eq_true.mp smallRuns_spares run hrun) other hother
  exact CaseRun.keeps_of_spares hspares h

/-- **A character stays as it is, or becomes small forms.** -/
theorem lowerChar_cases (c : Char) :
    lowerChar c = [c] ∨ AreSmallForms (lowerChar c) := by
  by_cases hascii : c.toNat < 0x80
  · exact forall_ascii (P := fun c => lowerChar c = [c] ∨ AreSmallForms (lowerChar c))
      (by decide +kernel) hascii
  · rw [lowerChar, if_neg hascii, mapCase]
    split
    · next image himage =>
      -- The only capital that becomes two characters is the dotted I.
      have hlist : image = [0x69, 0x307] := by
        rw [smallSequences, List.lookup_cons] at himage
        split at himage
        · exact (Option.some.inj himage).symm
        · cases himage
      subst hlist
      exact .inr (by decide +kernel)
    · split
      · next m hm =>
        obtain ⟨run, hrun, happly⟩ := List.exists_of_findSome?_eq_some hm
        exact .inr ⟨List.cons_ne_nil _ _,
          List.forall_mem_singleton.mpr (isSmallForm_of_mem_smallRuns hrun happly)⟩
      · exact .inl rfl

/-- A sigma at the end of a word makes no exception. -/
theorem lowerAfter_cons (before : List Char) (c : Char) (rest : List Char) :
    ∃ small, lowerAfter before (c :: rest) = small ++ lowerAfter (c :: before) rest ∧
      (small = [c] ∧ lowerChar c = [c] ∨ AreSmallForms small) := by
  refine ⟨_, rfl, ?_⟩
  split
  · exact .inr (by decide +kernel)
  · exact (lowerChar_cases c).imp_left fun h => ⟨h, h⟩

/-! ## Twice in small letters -/

theorem isSmall_lowerAfter (before cs : List Char) : IsSmall (lowerAfter before cs) := by
  induction cs generalizing before with
  | nil => exact List.forall_mem_nil _
  | cons c rest ih =>
    obtain ⟨small, hsmall, hcases⟩ := lowerAfter_cons before c rest
    have hstays : ∀ d ∈ small, lowerChar d = [d] := by
      rcases hcases with ⟨rfl, hc⟩ | ⟨-, hforms⟩
      · exact List.forall_mem_singleton.mpr hc
      · exact fun d hd => (hforms d hd).stays
    rw [hsmall]
    refine List.forall_mem_append.mpr ⟨fun d hd => ⟨?_, hstays d hd⟩, ih _⟩
    rintro rfl
    exact absurd (hstays 'Σ' hd) (by decide +kernel)

/-- **Putting a text into small letters twice is putting it into small letters.** -/
theorem lower_lower (cs : List Char) : lower (lower cs) = lower cs :=
  lower_eq_self (isSmall_lowerAfter [] cs)

theorem lowerAfter_eq_nil_iff {before : List Char} : lowerAfter before cs = [] ↔ cs = [] := by
  cases cs with
  | nil => simp [lowerAfter]
  | cons c rest =>
    obtain ⟨small, hsmall, hcases⟩ := lowerAfter_cons before c rest
    have hne : small ≠ [] := by
      rcases hcases with ⟨rfl, -⟩ | ⟨hne, -⟩
      · exact List.cons_ne_nil _ _
      · exact hne
    simp [hsmall, hne]

/-- What ends without a blank does so in small letters. -/
theorem isBlank_of_mem_getLast?_lowerAfter (h : ∀ c ∈ cs.getLast?, isBlank c = false)
    (before : List Char) : ∀ c ∈ (lowerAfter before cs).getLast?, isBlank c = false := by
  induction cs generalizing before with
  | nil => simp [lowerAfter]
  | cons c rest ih =>
    obtain ⟨small, hsmall, hcases⟩ := lowerAfter_cons before c rest
    rw [hsmall]
    by_cases hrest : rest = []
    · subst hrest
      rw [lowerAfter, List.append_nil]
      intro d hd
      rcases hcases with ⟨rfl, -⟩ | ⟨-, hforms⟩
      · exact h d hd
      · exact (hforms d (List.mem_of_mem_getLast? hd)).isBlank
    · rw [List.getLast?_append_of_ne_nil _ (mt lowerAfter_eq_nil_iff.mp hrest)]
      rw [List.getLast?_cons_of_ne_nil hrest] at h
      exact ih h _

end Text

/-! ## Substitutions in small letters -/

namespace Substitution

open Text

variable {c : Char} {cs before after body : List Char} {depth : Nat}

/-- The characters that decide where a text is cut at slashes. -/
def syntaxChars : List Char := ['$', '{', '}', '/']

/-- They have no case. -/
theorem lowerAfter_marker (h : c ∈ syntaxChars) (before rest : List Char) :
    lowerAfter before (c :: rest) = c :: lowerAfter (c :: before) rest := by
  have hsmall : IsSmall syntaxChars := by decide
  obtain ⟨hsigma, hstays⟩ := hsmall c h
  simp [lowerAfter, hsigma, hstays]

theorem not_mem_syntaxChars (h : IsSmallForm c) : c ∉ syntaxChars := by
  have hletter := h.letter
  intro hmem
  simp only [syntaxChars, List.mem_cons, List.not_mem_nil, or_false] at hmem
  rcases hmem with rfl | rfl | rfl | rfl <;> simp at hletter

/-- Characters that are no syntax are exposed or hidden together. -/
theorem mark_append_of_no_marker (h : ∀ c ∈ cs, c ∉ syntaxChars) (depth : Nat)
    (rest : List Char) : mark depth (cs ++ rest) = cs.map (·, depth == 0) ++ mark depth rest := by
  induction cs with
  | nil => rfl
  | cons c cs ih =>
    obtain ⟨hc, hcs⟩ := List.forall_mem_cons.mp h
    simp only [syntaxChars, List.mem_cons, List.not_mem_nil, or_false, not_or] at hc
    rw [List.cons_append, mark_cons hc.1 hc.2.2.1, ih hcs]
    rfl

/-- A text in small letters begins with syntax only if the text does. -/
theorem head?_of_lowerAfter (hc : c ∈ syntaxChars)
    (h : (lowerAfter before cs).head? = some c) : cs.head? = some c := by
  cases cs with
  | nil => cases h
  | cons first rest =>
    obtain ⟨small, hsmall, ⟨rfl, -⟩ | ⟨hne, hforms⟩⟩ := lowerAfter_cons before first rest
    · rw [hsmall] at h
      exact h
    · rw [hsmall, List.head?_append_of_ne_nil _ hne] at h
      exact absurd hc (not_mem_syntaxChars (hforms c (List.mem_of_mem_head? h)))

/-- **A slash that does not cut a text does not cut it in small letters.** -/
theorem uncut_lowerAfter (h : ∀ m ∈ mark depth cs, isCut '/' m = false) (before : List Char) :
    ∀ m ∈ mark depth (lowerAfter before cs), isCut '/' m = false := by
  -- On how the text is read. What is read as one stays together, because it has no case.
  fun_induction mark depth cs generalizing before with
  | case1 => simp [lowerAfter]
  | case2 depth rest ih =>
    rw [lowerAfter_marker (by decide), lowerAfter_marker (by decide), mark]
    simp only [List.forall_mem_cons] at h ⊢
    exact ⟨h.1, h.2.1, ih h.2.2 _⟩
  | case3 depth rest ih =>
    rw [lowerAfter_marker (by decide), lowerAfter_marker (by decide), mark]
    simp only [List.forall_mem_cons] at h ⊢
    exact ⟨h.1, h.2.1, ih h.2.2 _⟩
  | case4 depth rest ih =>
    rw [lowerAfter_marker (by decide), mark]
    simp only [List.forall_mem_cons] at h ⊢
    exact ⟨h.1, ih h.2 _⟩
  | case5 depth c rest hescape hgroup hbrace ih =>
    rw [List.forall_mem_cons] at h
    obtain ⟨small, hsmall, ⟨rfl, -⟩ | ⟨-, hforms⟩⟩ := lowerAfter_cons before c rest
    · -- A dollar that begins nothing still begins nothing.
      have hnext : ∀ d ∈ syntaxChars, ∀ others, lowerAfter (c :: before) rest = d :: others →
          ∃ others, rest = d :: others := by
        intro d hd others heq
        have hhead : rest.head? = some d := head?_of_lowerAfter hd (by rw [heq]; rfl)
        exact List.head?_eq_some_iff.mp hhead
      rw [hsmall, List.singleton_append, mark, List.forall_mem_cons]
      · exact ⟨h.1, ih h.2 _⟩
      · intro others hc heq
        obtain ⟨others, hrest⟩ := hnext '$' (by decide) _ heq
        exact hescape others hc hrest
      · intro others hc heq
        obtain ⟨others, hrest⟩ := hnext '{' (by decide) _ heq
        exact hgroup others hc hrest
      · exact hbrace
    · have hplain : ∀ d ∈ small, d ∉ syntaxChars := fun d hd => not_mem_syntaxChars (hforms d hd)
      rw [hsmall, mark_append_of_no_marker hplain, List.forall_mem_append]
      refine ⟨fun m hm => ?_, ih h.2 _⟩
      obtain ⟨d, hd, rfl⟩ := List.mem_map.mp hm
      have hslash : d ≠ '/' := fun heq => hplain d hd (by simp [heq, syntaxChars])
      simp [isCut, hslash]

theorem Uncut.lower (h : Uncut '/' cs) : Uncut '/' (lower cs) := uncut_lowerAfter h []

/-! ## Groups in small letters -/

/-- A sigma does not look past a character that no word ignores. -/
theorem endsWord_append_cons {first last : Char} (hfirst : isIgnorable first = false)
    (hlast : isIgnorable last = false) (before inside after rest : List Char) :
    endsWord (inside ++ first :: before) (after ++ last :: rest) =
      endsWord (inside ++ [first]) (after ++ [last]) := by
  have hhead : ∀ {c : Char} (cs others : List Char), (cs ++ c :: others).head? =
      (cs ++ [c]).head? := fun cs others => by cases cs <;> rfl
  simp only [endsWord, dropWhile_append_cons hfirst, dropWhile_append_cons hlast, hhead _ before,
    hhead _ rest]

/-- So what stands between two such characters becomes the same whatever is around them. -/
theorem exists_lowerAfter_between {first last : Char} (hfirst : isIgnorable first = false)
    (hlast : isIgnorable last = false) (inside cs : List Char) :
    ∃ small, ∀ before rest, lowerAfter (inside ++ first :: before) (cs ++ last :: rest) =
      small ++ lowerAfter (cs.reverse ++ inside ++ first :: before) (last :: rest) := by
  induction cs generalizing inside with
  | nil => exact ⟨[], fun before rest => rfl⟩
  | cons c cs ih =>
    obtain ⟨small, hsmall⟩ := ih (c :: inside)
    refine ⟨(if c == 'Σ' && endsWord (inside ++ [first]) (cs ++ [last]) then ['ς']
      else lowerChar c) ++ small, fun before rest => ?_⟩
    rw [List.cons_append, lowerAfter, endsWord_append_cons hfirst hlast, ← List.cons_append,
      hsmall]
    simp

/-- **A group becomes the same text wherever it stands.** -/
theorem group_infix_lower (before body after : List Char) :
    lower (group body) <:+: lower (before ++ group body ++ after) := by
  have hopening : isIgnorable '{' = false := by decide +kernel
  have hclosing : isIgnorable '}' = false := by decide +kernel
  obtain ⟨small, hsmall⟩ := exists_lowerAfter_between hopening hclosing [] body
  have hgroup : ∀ before after, lowerAfter before (group body ++ after) =
      '$' :: '{' :: small ++ '}' :: lowerAfter ((group body).reverse ++ before) after := by
    intro before after
    have happend : group body ++ after = '$' :: '{' :: (body ++ '}' :: after) := by simp [group]
    have hbody := hsmall ('$' :: before) after
    rw [lowerAfter_marker (by decide)] at hbody
    rw [happend, lowerAfter_marker (by decide), lowerAfter_marker (by decide)]
    simpa [group] using hbody
  have halone := hgroup [] []
  obtain ⟨start, hstart⟩ := exists_lowerAfter_append [] before (group body ++ after)
  rw [List.append_nil] at halone
  rw [lower, lower, List.append_assoc, hstart, halone, hgroup]
  exact ⟨start, lowerAfter ((group body).reverse ++ (before.reverse ++ [])) after,
    by simp [lowerAfter]⟩

end Substitution

end ComposeLint
