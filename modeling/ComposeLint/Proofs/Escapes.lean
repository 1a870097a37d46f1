import ComposeLint.Proofs.Canonical
import ComposeLint.Proofs.Substitution

/-!
# Escapes before a reference

A dollar that opens a reference counts for `occursIn` when no dollar stands before it. Reading from
left to right, as `mark` does, takes two dollars as an escape wherever they stand together
(`reachesReference`), so a dollar counts there when an even number of dollars stands before it. Both
look at runs of dollars (`RunOpens`): the first at runs of one, the second at all runs of an odd
length. They part at a text like `$$$NAME` (`occursIn_eq_reachesReference_iff`).
-/

namespace ComposeLint

namespace Substitution

variable {c : Char} {text rest : List Char} {n : Nat} {previous : Option Char}

/-- Whether reading from left to right, in which two dollars are an escape, comes to a dollar that
opens a reference. -/
def reachesReference : List Char → Bool
  | [] => false
  | '$' :: '$' :: rest => reachesReference rest
  | c :: rest => (c == '$' && opensReference rest) || reachesReference rest

/-- **Where reading comes to no reference, escapes are all that is hidden.** -/
theorem eq_dollar_of_mem_mark (h : reachesReference text = false) :
    ∀ m ∈ mark 0 text, m.2 = false → m.1 = '$' := by
  fun_induction reachesReference text with
  | case1 => simp
  | case2 rest ih =>
    rw [mark]
    simpa using ih h
  | case3 c rest hescape ih =>
    rw [Bool.or_eq_false_iff] at h
    have hordinary : mark 0 (c :: rest) = (c, true) :: mark 0 rest := by
      by_cases hc : c = '$'
      · subst hc
        refine mark_dollar fun d hd => ?_
        obtain ⟨others, rfl⟩ := List.head?_eq_some_iff.mp hd
        refine ⟨fun heq => hescape others rfl (heq ▸ rfl), fun heq => ?_⟩
        simp [heq, opensReference] at h
      · exact mark_zero_cons hc
    rw [hordinary]
    simpa using ih h.2

/-! ## Runs of dollars -/

/-- The text begins with `n` dollars, and what follows them opens a reference. -/
def BeginsRun (n : Nat) (text : List Char) : Prop :=
  ∃ after, text = List.replicate n '$' ++ after ∧ opensReference after = true

/-- A run of exactly `n` dollars that open a reference stands in a text after the character
`previous`. -/
def RunAfter (previous : Option Char) (n : Nat) (text : List Char) : Prop :=
  ∃ before rest, text = before ++ rest ∧ before.getLast?.or previous ≠ some '$' ∧ BeginsRun n rest

/-- A run of exactly `n` dollars that open a reference stands in a text. -/
def RunOpens (n : Nat) (text : List Char) : Prop := RunAfter none n text

/-- Nothing that opens a reference begins with a dollar. -/
theorem not_opensReference_dollar : opensReference ('$' :: rest) = false := by
  simp [opensReference, beginsName]

theorem not_beginsRun_cons (hc : c ≠ '$') : ¬ BeginsRun (n + 1) (c :: rest) := by
  rintro ⟨after, htext, -⟩
  exact hc (List.cons.inj htext).1

theorem beginsRun_one : BeginsRun 1 ('$' :: rest) ↔ opensReference rest = true := by
  simp [BeginsRun]

/-- A longer run begins one dollar earlier. -/
theorem beginsRun_succ : BeginsRun (n + 1) ('$' :: rest) ↔ BeginsRun n rest := by
  simp [BeginsRun, List.replicate_succ]

/-- A run begins with the text, or it stands behind the first character. -/
theorem runAfter_cons : RunAfter previous n (c :: rest) ↔
    (previous ≠ some '$' ∧ BeginsRun n (c :: rest)) ∨ RunAfter (some c) n rest := by
  constructor
  · rintro ⟨before, run, htext, hbefore, hrun⟩
    cases before with
    | nil => exact .inl ⟨by simpa using hbefore, by simpa [htext] using hrun⟩
    | cons first before =>
      obtain ⟨rfl, rfl⟩ := List.cons.inj htext
      exact .inr ⟨before, run, rfl, by rwa [or_getLast?_cons] at hbefore, hrun⟩
  · rintro (⟨hprevious, hrun⟩ | ⟨before, run, rfl, hbefore, hrun⟩)
    · exact ⟨[], _, rfl, by simpa using hprevious, hrun⟩
    · exact ⟨c :: before, run, rfl, by rwa [or_getLast?_cons], hrun⟩

/-- What stands before a text matters only to a run that it begins with. -/
theorem runOpens_iff : RunOpens n text ↔ BeginsRun n text ∨ RunAfter (some '$') n text := by
  cases text with
  | nil => simp [RunOpens, RunAfter]
  | cons c rest => simp [RunOpens, runAfter_cons]

/-- Where no dollar stands first, it does not matter what stands before. -/
theorem runAfter_iff_runOpens (h : previous ≠ some '$') :
    RunAfter previous n text ↔ RunOpens n text := by
  cases text with
  | nil => simp [RunOpens, RunAfter, h]
  | cons c rest => simp [RunOpens, runAfter_cons, h]

/-- **A search finds the lone dollars.** -/
theorem occursIn_iff_runOpens : occursIn text = true ↔ RunOpens 1 text := by
  rw [occursIn_iff_refers]
  constructor
  · rintro ⟨before, c, after, rfl, hbefore, hc⟩
    refine ⟨before, _, rfl, by simpa using hbefore, ?_⟩
    exact beginsRun_one.mpr (opensReference_iff.mpr ⟨c, after, rfl, hc⟩)
  · rintro ⟨before, _, rfl, hbefore, after, rfl, hopens⟩
    obtain ⟨c, others, rfl, hc⟩ := opensReference_iff.mp hopens
    exact ⟨before, c, others, rfl, by simpa using hbefore, hc⟩

/-! ## Runs of an odd length -/

/-- A run of an odd length stands in a text. -/
def OddRunOpens (text : List Char) : Prop := ∃ k, RunOpens (2 * k + 1) text

/-- **An escape keeps odd runs odd.** It lengthens the run that it stands before by two, and leaves
all others. -/
theorem oddRunOpens_escape : OddRunOpens ('$' :: '$' :: rest) ↔ OddRunOpens rest := by
  have hbehind : ∀ k, RunOpens (2 * k + 1) ('$' :: '$' :: rest) ↔
      BeginsRun (2 * k + 1) ('$' :: '$' :: rest) ∨ RunAfter (some '$') (2 * k + 1) rest := by
    intro k
    simp [RunOpens, runAfter_cons]
  have hfirst : (∃ k, BeginsRun (2 * k + 1) ('$' :: '$' :: rest)) ↔
      ∃ k, BeginsRun (2 * k + 1) rest := by
    constructor
    · rintro ⟨_ | k, hbegins⟩
      · rw [Nat.mul_zero, Nat.zero_add, beginsRun_one, not_opensReference_dollar] at hbegins
        cases hbegins
      · exact ⟨k, beginsRun_succ.mp (beginsRun_succ.mp hbegins)⟩
    · rintro ⟨k, hbegins⟩
      exact ⟨k + 1, beginsRun_succ.mpr (beginsRun_succ.mpr hbegins)⟩
  simp only [OddRunOpens, hbehind, exists_or, hfirst]
  simp only [runOpens_iff, exists_or]

/-- A dollar without another one behind it is a run of its own. -/
theorem oddRunOpens_dollar (hnext : ∀ others, rest ≠ '$' :: others) :
    OddRunOpens ('$' :: rest) ↔ opensReference rest = true ∨ OddRunOpens rest := by
  have hshort : ∀ k, ¬ BeginsRun (k + 1) rest := by
    rintro k ⟨after, rfl, -⟩
    exact hnext _ rfl
  have hbehind : ∀ k, RunOpens (2 * k + 1) ('$' :: rest) ↔
      BeginsRun (2 * k) rest ∨ RunOpens (2 * k + 1) rest := by
    intro k
    have hrest : RunOpens (2 * k + 1) rest ↔ RunAfter (some '$') (2 * k + 1) rest :=
      runOpens_iff.trans (or_iff_right (hshort _))
    rw [hrest, RunOpens, runAfter_cons, beginsRun_succ]
    simp
  have hfirst : (∃ k, BeginsRun (2 * k) rest) ↔ opensReference rest = true := by
    constructor
    · rintro ⟨_ | k, hbegins⟩
      · exact beginsRun_one.mp (beginsRun_succ.mpr hbegins)
      · exact absurd hbegins (hshort _)
    · exact fun hopens => ⟨0, beginsRun_succ.mp (beginsRun_one.mpr hopens)⟩
  simp only [OddRunOpens, hbehind, exists_or, hfirst]

theorem oddRunOpens_cons (hc : c ≠ '$') : OddRunOpens (c :: rest) ↔ OddRunOpens rest := by
  refine exists_congr fun k => ?_
  rw [RunOpens, runAfter_cons, or_iff_right fun h => not_beginsRun_cons hc h.2,
    runAfter_iff_runOpens (by simpa using hc)]

/-- **Reading finds the runs of an odd length**: the last dollar of such a run is no part of an
escape. -/
theorem reachesReference_iff_oddRunOpens : reachesReference text = true ↔ OddRunOpens text := by
  fun_induction reachesReference text with
  | case1 => simp [OddRunOpens, RunOpens, RunAfter, BeginsRun, List.replicate_succ]
  | case2 rest ih => rw [ih, oddRunOpens_escape]
  | case3 c rest hescape ih =>
    rw [Bool.or_eq_true, ih]
    by_cases hc : c = '$'
    · subst hc
      rw [oddRunOpens_dollar fun others => hescape others rfl]
      simp
    · rw [oddRunOpens_cons hc]
      simp [hc]

/-- An odd run is one dollar, or at least three. -/
theorem oddRunOpens_iff : OddRunOpens text ↔ RunOpens 1 text ∨ ∃ k, RunOpens (2 * k + 3) text := by
  constructor
  · rintro ⟨_ | k, hrun⟩
    · exact .inl hrun
    · exact .inr ⟨k, hrun⟩
  · rintro (hrun | ⟨k, hrun⟩)
    · exact ⟨0, hrun⟩
    · exact ⟨k + 1, hrun⟩

/-! ## Searching and reading -/

/-- **Searching and reading agree but for runs of three or more.** What is found is always reached.
The other way round holds exactly when a text in which three, five or more dollars open a reference
also has one dollar that does. Where nothing is reached, only escapes are hidden from separators. -/
theorem occursIn_eq_reachesReference_iff (text : List Char) :
    (occursIn text = true → reachesReference text = true) ∧
    (occursIn text = reachesReference text ↔
      ((∃ k, RunOpens (2 * k + 3) text) → RunOpens 1 text)) ∧
    (reachesReference text = false → ∀ m ∈ mark 0 text, m.2 = false → m.1 = '$') := by
  have hreaches : reachesReference text = true ↔
      RunOpens 1 text ∨ ∃ k, RunOpens (2 * k + 3) text :=
    reachesReference_iff_oddRunOpens.trans oddRunOpens_iff
  refine ⟨fun hoccurs => hreaches.mpr (.inl (occursIn_iff_runOpens.mp hoccurs)), ?_,
    eq_dollar_of_mem_mark⟩
  rw [Bool.eq_iff_iff, occursIn_iff_runOpens, hreaches]
  tauto

/-- Three dollars are an escape and a dollar that opens a group, but no dollar stands alone. -/
theorem not_occursIn_eq_reachesReference :
    ¬ ∀ text, occursIn text = reachesReference text := fun h => by
  have hport := h "$$$\x7bPORT\x7d".toList
  revert hport
  decide

end Substitution

end ComposeLint
