import ComposeLint.Proofs.Canonical
import ComposeLint.Proofs.DangerousMounts

/-!
# What a source begins with

What is mounted is meant to follow from the way its source begins: with a reference, like a path of
the host, or with neither (`MountKind.Begins`). Paths of the host are always told by their
beginning. A reference is not, because it is searched for in the whole source as soon as a dollar
stands first. That dollar may be a literal one, or the first of an escape, and the reference may
stand anywhere behind it (`MountKind.HidesReference`). In exactly these sources the beginning says
something else than what is found (`MountKind.begins_of_iff`).
-/

namespace ComposeLint

open Substitution

namespace MountKind

variable {source : String}

/-- Whether a source begins with a reference: a dollar stands first, and behind it a brace or the
first letter of a name. -/
def BeginsReference (source : String) : Prop :=
  ∃ c rest, source.toList = '$' :: c :: rest ∧ (c = '{' ∨ c = '_' ∨ c.isAlpha = true)

/-- Whether a source begins like a path of the host. -/
def BeginsPath (source : String) : Prop :=
  "/".toList <+: source.toList ∨ "./".toList <+: source.toList

/-- What the beginning of a source says that it is. -/
inductive Begins (source : String) : MountKind → Prop
  /-- A source that begins with a reference can turn out as anything. -/
  | reference : BeginsReference source → Begins source .substitution
  | path : ¬ BeginsReference source → BeginsPath source → Begins source .bindMount
  /-- Everything else is a name. -/
  | name : ¬ BeginsReference source → ¬ BeginsPath source → Begins source .namedVolume

/-- Whether a dollar that begins no reference stands first in a source, and a reference further on.
-/
structure HidesReference (source : String) : Prop where
  dollar : source.toList.head? = some '$'
  literal : ¬ BeginsReference source
  refers : Refers source.toList

/-! ## Beginnings -/

theorem beginsReference_iff : BeginsReference source ↔
    ∃ c rest, source.toList = '$' :: c :: rest ∧ (c = '{' ∨ beginsName c = true) := by
  refine exists_congr fun c => exists_congr fun rest => and_congr_right fun _ => ?_
  rw [beginsName, Bool.or_eq_true, beq_iff_eq, or_comm (a := c.isAlpha = true)]

theorem BeginsReference.head? (h : BeginsReference source) : source.toList.head? = some '$' := by
  obtain ⟨c, rest, hsource, -⟩ := h
  rw [hsource, List.head?_cons]

/-- No dollar stands before the first one. -/
theorem BeginsReference.refers (h : BeginsReference source) : Refers source.toList := by
  obtain ⟨c, rest, hsource, hc⟩ := beginsReference_iff.mp h
  exact ⟨[], c, rest, hsource, by simp, hc⟩

/-- A path does not begin with a dollar. -/
theorem BeginsPath.head?_ne (h : BeginsPath source) : source.toList.head? ≠ some '$' := by
  obtain ⟨rest, hrest⟩ | ⟨rest, hrest⟩ := h <;> simp [← hrest]

/-! ## What is found -/

/-- **A reference anywhere counts** once a dollar stands first. -/
theorem of_eq_substitution_iff : of source = .substitution ↔
    source.toList.head? = some '$' ∧ Refers source.toList := by
  rw [← occursIn_iff_refers, of]
  simp only [Bool.and_eq_true, beq_iff_eq]
  split
  · next h => exact iff_of_true rfl h
  · next h =>
    refine iff_of_false ?_ h
    split <;> simp

theorem of_eq_substitution_iff_or :
    of source = .substitution ↔ BeginsReference source ∨ HidesReference source := by
  rw [of_eq_substitution_iff]
  constructor
  · rintro ⟨hdollar, hrefers⟩
    by_cases hbegins : BeginsReference source
    · exact .inl hbegins
    · exact .inr ⟨hdollar, hbegins, hrefers⟩
  · rintro (hbegins | ⟨hdollar, -, hrefers⟩)
    · exact ⟨hbegins.head?, hbegins.refers⟩
    · exact ⟨hdollar, hrefers⟩

/-- Everything else is a name. -/
theorem of_eq_namedVolume_iff : of source = .namedVolume ↔
    ¬ BeginsReference source ∧ ¬ HidesReference source ∧ ¬ BeginsPath source := by
  have hothers : of source = .namedVolume ↔ of source ≠ .substitution ∧ of source ≠ .bindMount := by
    cases of source <;> simp
  have hpath : of source ≠ .bindMount ↔ ¬ BeginsPath source := not_congr of_eq_bindMount_iff
  rw [hothers, hpath, ne_eq, of_eq_substitution_iff_or, not_or, and_assoc]

/-- **A kind is told by the beginning of a source**, except where a reference is hidden behind
a dollar that begins none. -/
theorem begins_of_iff (source : String) :
    (of source = .substitution ↔ BeginsReference source ∨ HidesReference source) ∧
    (of source = .bindMount ↔ ¬ BeginsReference source ∧ BeginsPath source) ∧
    (of source = .namedVolume ↔
      ¬ BeginsReference source ∧ ¬ HidesReference source ∧ ¬ BeginsPath source) ∧
    (Begins source (of source) ↔ ¬ HidesReference source) := by
  have hpath : of source = .bindMount ↔ ¬ BeginsReference source ∧ BeginsPath source := by
    rw [of_eq_bindMount_iff]
    exact (and_iff_right_of_imp fun hpath hbegins => BeginsPath.head?_ne hpath hbegins.head?).symm
  refine ⟨of_eq_substitution_iff_or, hpath, of_eq_namedVolume_iff, ?_⟩
  constructor
  · intro hbegins hhides
    have hkind : of source = .substitution := of_eq_substitution_iff_or.mpr (.inr hhides)
    rw [hkind] at hbegins
    obtain ⟨hreference⟩ := hbegins
    exact hhides.literal hreference
  · intro hhides
    cases hkind : of source with
    | substitution => exact .reference ((of_eq_substitution_iff_or.mp hkind).resolve_right hhides)
    | bindMount => exact .path (hpath.mp hkind).1 (hpath.mp hkind).2
    | namedVolume =>
      obtain ⟨hreference, -, hnot⟩ := of_eq_namedVolume_iff.mp hkind
      exact .name hreference hnot

/-- A source that begins with an escape and refers to a variable further on is no name. -/
theorem not_forall_begins_of :
    (¬ ∀ source, Begins source (of source)) ∧
      Begins "$$data/$\x7bX\x7d" .namedVolume ∧ of "$$data/$\x7bX\x7d" = .substitution := by
  have hliteral : ¬ BeginsReference "$$data/$\x7bX\x7d" := by
    rintro ⟨c, rest, hsource, hc⟩
    obtain ⟨-, hsecond⟩ := List.cons.inj hsource
    obtain ⟨rfl, -⟩ := List.cons.inj hsecond
    revert hc
    decide
  have hname : Begins "$$data/$\x7bX\x7d" .namedVolume := by
    refine .name hliteral ?_
    rintro (⟨rest, hrest⟩ | ⟨rest, hrest⟩) <;> cases hrest
  have hkind : of "$$data/$\x7bX\x7d" = .substitution := by decide
  refine ⟨fun h => ?_, hname, hkind⟩
  have hbegins := h "$$data/$\x7bX\x7d"
  rw [hkind] at hbegins
  obtain ⟨hreference⟩ := hbegins
  exact hliteral hreference

end MountKind

end ComposeLint
