import ComposeLint.Proofs.ShortPort
import ComposeLint.Proofs.SmallLetters
import Mathlib.Algebra.Group.Nat.Even

/-!
# Groups that a port keeps

A port in the short form may hold groups anywhere. Reading it trims the text and cuts it at slashes,
brackets and colons, and puts some of its parts together again, and none of this breaks a group: it
begins and ends with no blank, and no separator in it is exposed, whatever is nested in it and
however many groups are open before it (`Holds.of_append_cons`). So a group ends up in one part of
the binding, and it is kept there as it is written, but for the protocol, which is put into small
letters together with the names of its variables (`PortBinding.shows_or_of_holds`).
-/

namespace ComposeLint

open Substitution

namespace Substitution

variable {sep c : Char} {cs text before after left right body : List Char} {depth : Nat}

/-! ## Reading goes on -/

/-- **What follows a text is read in the groups that are open at its end**, if no dollar stands
there that it could go on with. -/
theorem mark_append_of_getLast? (h : cs.getLast? ≠ some '$') (depth : Nat) (after : List Char) :
    mark depth (cs ++ after) = mark depth cs ++ mark (openGroups depth cs) after := by
  have htail : ∀ {c : Char} {rest : List Char}, (c :: rest).getLast? ≠ some '$' →
      rest.getLast? ≠ some '$' := by
    intro c rest h
    cases rest with
    | nil => simp
    | cons d rest => rwa [List.getLast?_cons_cons] at h
  fun_induction openGroups depth cs with
  | case1 depth => rw [mark_nil, List.nil_append, List.nil_append]
  | case2 depth rest ih => simp only [List.cons_append, mark, ih (htail (htail h))]
  | case3 depth rest ih => simp only [List.cons_append, mark, ih (htail (htail h))]
  | case4 depth rest ih => simp only [List.cons_append, mark, ih (htail h)]
  | case5 depth c rest hescape hgroup hbrace ih =>
    -- A dollar has something behind it, which begins neither an escape nor a group.
    have hnext : ∀ {d : Char} {others : List Char}, c = '$' → rest ++ after = d :: others →
        ∃ others, rest = d :: others := by
      rintro d others rfl heq
      cases rest with
      | nil => exact absurd rfl h
      | cons e rest => exact ⟨rest, by rw [(List.cons.inj heq).1]⟩
    rw [List.cons_append, mark, mark, ih (htail h)]
    · rfl
    · exact hescape
    · exact hgroup
    · exact hbrace
    · intro others hc heq
      obtain ⟨others, hrest⟩ := hnext hc heq
      exact hescape others hc hrest
    · intro others hc heq
      obtain ⟨others, hrest⟩ := hnext hc heq
      exact hgroup others hc hrest
    · exact hbrace

/-- The number of dollars that a text ends with. -/
def endingDollars (cs : List Char) : Nat := (cs.reverse.takeWhile (· == '$')).length

/-- They are what stands behind any other character. -/
theorem endingDollars_append_cons (hc : c ≠ '$') (before after : List Char) :
    endingDollars (before ++ c :: after) = endingDollars after := by
  rw [endingDollars,
    Text.takeWhile_reverse_append_cons (p := (· == '$')) (beq_eq_false_iff_ne.mpr hc),
    endingDollars]

theorem exists_append_replicate (cs : List Char) : ∃ start, start.getLast? ≠ some '$' ∧
    cs = start ++ List.replicate (endingDollars cs) '$' := by
  have hdollars : cs.reverse.takeWhile (· == '$') = List.replicate (endingDollars cs) '$' :=
    List.eq_replicate_iff.mpr ⟨rfl, fun c hc => by
      simpa using List.all_eq_true.mp List.all_takeWhile c hc⟩
  have hsplit := congrArg List.reverse
    (List.takeWhile_append_dropWhile (p := (· == '$')) (l := cs.reverse))
  rw [List.reverse_reverse, List.reverse_append, hdollars, List.reverse_replicate] at hsplit
  refine ⟨(cs.reverse.dropWhile (· == '$')).reverse, fun hlast => ?_, hsplit.symm⟩
  have hnot := List.head?_dropWhile_not (· == '$') cs.reverse
  rw [List.getLast?_reverse] at hlast
  simp [hlast] at hnot

/-- An even number of dollars are escapes. -/
theorem mark_replicate_append (n depth : Nat) (after : List Char) :
    mark depth (List.replicate (n + n) '$' ++ after) =
      List.replicate (n + n) ('$', false) ++ mark depth after := by
  induction n with
  | zero => rfl
  | succ n ih =>
    have hsucc : n + 1 + (n + 1) = n + n + 1 + 1 := by omega
    simp only [hsucc, List.replicate_succ, List.cons_append, mark, ih]

/-- **Behind an even number of dollars reading is at a new start**, in some number of groups. -/
theorem exists_mark_append (h : Even (endingDollars before)) :
    ∃ depth, ∀ after, mark 0 (before ++ after) = mark 0 before ++ mark depth after := by
  obtain ⟨start, hstart, hbefore⟩ := exists_append_replicate before
  obtain ⟨n, hn⟩ := h
  rw [hn] at hbefore
  have hmark : ∀ after, mark 0 (before ++ after) =
      mark 0 start ++ (List.replicate (n + n) ('$', false) ++ mark (openGroups 0 start) after) := by
    intro after
    rw [hbefore, List.append_assoc, mark_append_of_getLast? hstart, mark_replicate_append]
  have halone := hmark []
  rw [List.append_nil, mark_nil, List.append_nil] at halone
  exact ⟨openGroups 0 start, fun after => by rw [hmark, halone, List.append_assoc]⟩

/-! ## Groups in a text -/

/-- A group stands in a text behind `before`, and no escape takes its dollar. -/
structure Holds (text before body after : List Char) : Prop where
  enclosed : Enclosed body
  eq : text = before ++ group body ++ after
  even : Even (endingDollars before)

/-- The characters of a group are hidden. -/
theorem Holds.mark_eq (h : Holds text before body after) : ∃ depth,
    mark 0 text = mark 0 before ++ ((group body).map (·, false) ++ mark depth after) := by
  obtain ⟨depth, hmark⟩ := exists_mark_append h.even
  refine ⟨depth, ?_⟩
  rw [h.eq, List.append_assoc, hmark, mark_group_append h.enclosed]

/-- So none of them is an exposed separator. -/
theorem Holds.not_inside {rest inside : List Char} (hsep : Divides sep)
    (h : Holds (before ++ rest ++ sep :: right) before body after)
    (hclosed : Closed (before ++ rest)) : group body ≠ rest ++ sep :: inside := by
  intro hinside
  obtain ⟨depth, hmark⟩ := h.mark_eq
  rw [mark_append_divides hsep hclosed, hinside, List.map_append, List.append_assoc,
    ← List.append_assoc (mark 0 before)] at hmark
  have hlength : (mark 0 (before ++ rest)).length =
      (mark 0 before ++ rest.map (·, false)).length := by
    simp [length_mark]
  obtain ⟨-, hcut⟩ := List.append_inj hmark hlength
  exact absurd (List.cons.inj hcut).1 (by simp)

/-- A character that is no dollar stands before a group, or the group begins before it. -/
theorem Holds.before_or_behind (hc : c ≠ '$') (h : Holds (left ++ c :: right) before body after) :
    (∃ rest, rest ≠ [] ∧ left = before ++ rest ∧ group body ++ after = rest ++ c :: right) ∨
      ∃ rest, before = left ++ c :: rest ∧ Holds right rest body after := by
  have heq := h.eq
  rw [List.append_assoc] at heq
  have hgroup : group body ++ after = '$' :: ('{' :: body ++ '}' :: after) := by simp [group]
  obtain ⟨rest, hbefore, hrest⟩ | ⟨rest, hleft, hrest⟩ := List.append_eq_append_iff.mp heq
  · cases rest with
    | nil =>
      rw [List.nil_append, hgroup] at hrest
      exact absurd (List.cons.inj hrest).1 hc
    | cons d rest =>
      obtain ⟨rfl, rfl⟩ := List.cons.inj hrest
      have heven := h.even
      rw [hbefore, endingDollars_append_cons hc] at heven
      exact .inr ⟨rest, hbefore, h.enclosed, (List.append_assoc _ _ _).symm, heven⟩
  · refine .inl ⟨rest, ?_, hleft, hrest⟩
    rintro rfl
    rw [List.nil_append, hgroup] at hrest
    exact hc (List.cons.inj hrest).1.symm

/-- **No separator is exposed in a group**, so a group stands on one side of it. -/
theorem Holds.of_append_cons (hsep : Divides sep) (hclosed : Closed left)
    (h : Holds (left ++ sep :: right) before body after) :
    (∃ rest, Holds left before body rest) ∨
      ∃ rest, before = left ++ sep :: rest ∧ Holds right rest body after := by
  refine (h.before_or_behind hsep.separates.1).imp_left ?_
  rintro ⟨rest, -, rfl, hrest⟩
  obtain ⟨others, rfl, -⟩ | ⟨inside, hinside, hafter⟩ := List.append_eq_append_iff.mp hrest
  · exact ⟨others, h.enclosed, (List.append_assoc _ _ _).symm, h.even⟩
  · cases inside with
    | nil =>
      rw [List.append_nil] at hinside
      exact ⟨[], h.enclosed, by rw [hinside, List.append_nil], h.even⟩
    | cons c inside =>
      obtain ⟨rfl, -⟩ := List.cons.inj hafter
      exact absurd hinside (h.not_inside hsep hclosed)

/-- Trimming stops at the dollar of a group, and at its closing brace. -/
theorem trim_group (before body after : List Char) :
    Text.trim (before ++ group body ++ after) =
      before.dropWhile Text.isBlank ++ group body ++ Text.trimEnd after := by
  have hend : Text.trimEnd (body ++ '}' :: after) = body ++ '}' :: Text.trimEnd after := by
    have hreverse : (body ++ '}' :: after).reverse = after.reverse ++ '}' :: body.reverse := by simp
    rw [Text.trimEnd, hreverse, Text.dropWhile_append_cons (by decide), Text.trimEnd]
    simp
  have hgroup : ∀ before after : List Char, before ++ group body ++ after =
      before ++ '$' :: '{' :: (body ++ '}' :: after) := fun before after => by simp [group]
  rw [hgroup, hgroup, Text.trim_append_cons_cons (by decide) (by decide), hend]

/-- What is no blank is not trimmed. -/
theorem mem_dropWhile_isBlank (hc : Text.isBlank c = false) (h : c ∈ cs) :
    c ∈ cs.dropWhile Text.isBlank := by
  rw [← List.takeWhile_append_dropWhile (p := Text.isBlank) (l := cs)] at h
  refine (List.mem_append.mp h).resolve_left fun hblank => ?_
  rw [List.all_eq_true.mp List.all_takeWhile c hblank] at hc
  cases hc

/-- The blanks before a text are followed by the rest of it, if there are any. -/
theorem dropWhile_isBlank_cases (cs : List Char) : cs.dropWhile Text.isBlank = cs ∨
    ∃ blanks c, Text.isBlank c = true ∧ cs = blanks ++ c :: cs.dropWhile Text.isBlank := by
  have hsplit := List.takeWhile_append_dropWhile (p := Text.isBlank) (l := cs)
  obtain hnil | ⟨blanks, c, hblanks⟩ := List.eq_nil_or_concat (cs.takeWhile Text.isBlank)
  · rw [hnil] at hsplit
    exact .inl hsplit
  · have hc : Text.isBlank c = true :=
      List.all_eq_true.mp List.all_takeWhile c (by rw [hblanks]; simp)
    rw [hblanks, List.concat_eq_append, List.append_assoc] at hsplit
    exact .inr ⟨blanks, c, hc, hsplit.symm⟩

/-- **Trimming leaves a group as it stands.** -/
theorem Holds.trim (h : Holds text before body after) :
    Holds (Text.trim text) (before.dropWhile Text.isBlank) body (Text.trimEnd after) := by
  refine ⟨h.enclosed, by rw [h.eq, trim_group], ?_⟩
  have heven := h.even
  obtain hsame | ⟨blanks, c, hc, hbefore⟩ := dropWhile_isBlank_cases before
  · rwa [hsame]
  · have hdollar : c ≠ '$' := by
      rintro rfl
      cases hc
    rwa [hbefore, endingDollars_append_cons hdollar] at heven

theorem Holds.group_infix (h : Holds text before body after) : group body <:+: text :=
  ⟨before, after, h.eq.symm⟩

theorem Holds.ne_nil (h : Holds text before body after) : text ≠ [] := by
  rw [h.eq]
  simp [group]

end Substitution

/-- **A side that holds a group is kept as it is written**, but for blanks around it. -/
theorem PortSide.exists_unresolved_of_holds {text before body after : List Char} {side : PortSide}
    (h : Holds text before body after) (hread : PortSide.parse? text = some side) :
    ∃ expression, side = .unresolved expression ∧ group body <:+: expression.toList := by
  cases side with
  | literal range =>
    -- There is no dollar in a number.
    obtain ⟨written, hchars, hside⟩ := parse?_eq_literal_iff.mp hread
    have hdollar : '$' ∈ written.chars := by
      rw [hchars, h.trim.eq]
      simp [group]
    cases written with
    | port number => exact absurd hdollar (PortText.plain_digits number rfl)
    | range first last =>
      simp [PortText.chars, PortText.plain_digits first, PortText.plain_digits last] at hdollar
    | group => cases hside
  | unresolved expression =>
    obtain ⟨-, rfl⟩ := parse?_eq_unresolved_iff.mp hread
    exact ⟨_, rfl, by rw [String.toList_ofList]; exact h.trim.group_infix⟩

namespace PortBinding

variable {text rest before after body container : List Char} {host : Option (List Char)}
  {protocol : Option (List Char)} {entry : PortEntry} {binding : PortBinding}

/-- Whether a part of a port holds a group. -/
def HasGroup (body part : List Char) : Prop := ∃ before after, Holds part before body after

/-! ## Where a group goes -/

/-- A group in sides is in one of them. -/
theorem HasSides.hasGroup (hsides : HasSides text host container)
    (h : Holds text before body after) :
    HasGroup body container ∨ ∃ side ∈ host, HasGroup body side := by
  cases hsides with
  | container => exact .inl ⟨before, after, h⟩
  | both hclosed =>
    obtain ⟨rest, hhost⟩ | ⟨rest, -, hcontainer⟩ := h.of_append_cons divides_colon hclosed
    · exact .inr ⟨_, rfl, before, rest, hhost⟩
    · exact .inl ⟨rest, after, hcontainer⟩

/-- **A group goes into one part of a port**, if it does not stand in brackets. -/
theorem HasParts.hasGroup (hparts : HasParts text entry) (h : Holds text before body after)
    (hbrackets : text.head? = some '[' → ']' ∈ before) :
    HasGroup body entry.container ∨ (∃ side ∈ entry.host, HasGroup body side) ∨
      ∃ interface ∈ entry.interface, HasGroup body interface := by
  cases hparts with
  | sides _ hsides => exact (hsides.hasGroup h).imp_right .inl
  | @address address _ _ _ _ haddress hsides =>
    obtain ⟨rest, hinterface⟩ | ⟨rest, -, hrest⟩ := h.of_append_cons divides_colon haddress
    · exact .inr (.inr ⟨address, rfl, before, rest, hinterface⟩)
    · exact (hsides.hasGroup hrest).imp_right .inl
  | @bracketed address sides _ _ hnot hsides =>
    -- The group stands behind the closing bracket, and behind the colon that follows it.
    have hbefore : ']' ∈ before := hbrackets rfl
    have hbracket : Holds ('[' :: address ++ ']' :: ':' :: sides) before body after := h
    obtain ⟨rest, -, hleft, -⟩ | ⟨rest, -, hrest⟩ := hbracket.before_or_behind (by decide)
    · have hmem : ']' ∈ '[' :: address := hleft ▸ List.mem_append_left _ hbefore
      exact absurd hmem (by simp [hnot])
    · have hcolon : Holds ([] ++ ':' :: sides) rest body after := hrest
      obtain ⟨others, hne, hnil, -⟩ | ⟨others, -, hothers⟩ := hcolon.before_or_behind (by decide)
      · exact absurd (List.append_eq_nil_iff.mp hnil.symm).2 hne
      · exact (hsides.hasGroup hothers).imp_right .inl

/-- Whether a text occurs in one of the parts of a binding. -/
def Shows (binding : PortBinding) (text : List Char) : Prop :=
  text <:+: binding.hostInterface.toList ∨
    (∃ expression, binding.hostPort = some (.unresolved expression) ∧
      text <:+: expression.toList) ∨
    (∃ expression, binding.containerPort = .unresolved expression ∧
      text <:+: expression.toList) ∨
    text <:+: binding.protocol.toList

/-- **The binding of parts shows the groups of the parts.** -/
theorem shows_of_hasGroup {small : List Char} (hbinding : entry.binding? small = some binding)
    (h : HasGroup body entry.container ∨ (∃ side ∈ entry.host, HasGroup body side) ∨
      ∃ interface ∈ entry.interface, HasGroup body interface) :
    binding.Shows (group body) := by
  obtain ⟨hinterface, ⟨hhost, hsome⟩, hcontainer, -⟩ := eq_of_ofParts? hbinding
  obtain ⟨before, after, h⟩ | ⟨host, hmem, before, after, h⟩ |
    ⟨interface, hmem, before, after, h⟩ := h
  · obtain ⟨expression, hexpression, hinfix⟩ := PortSide.exists_unresolved_of_holds h hcontainer
    exact .inr (.inr (.inl ⟨expression, hexpression, hinfix⟩))
  · rw [Option.mem_def.mp hmem, Option.getD_some] at hhost hsome
    obtain ⟨side, hside⟩ := Option.ne_none_iff_exists'.mp (hsome h.ne_nil)
    obtain ⟨expression, rfl, hinfix⟩ :=
      PortSide.exists_unresolved_of_holds h (hhost.trans hside)
    exact .inr (.inl ⟨expression, hside, hinfix⟩)
  · have hne : interface.isEmpty = false := by simpa using h.ne_nil
    rw [Option.mem_def.mp hmem, Option.getD_some, hne] at hinterface
    refine .inl ?_
    rw [hinterface, if_neg Bool.false_ne_true, String.toList_ofList]
    exact h.group_infix

/-- **A port keeps its groups.** A group of an accepted short form that does not stand in brackets
occurs in the interface, in one of the two sides or in the protocol. Behind a slash it may be the
protocol that it stands in, and there it is in small letters; so it is kept as it is written unless
it has a capital in it. -/
theorem shows_or_of_holds {written : String} (hread : parse? written = some binding)
    (h : Holds written.toList before body after)
    (hbrackets : (Text.trim written.toList).head? = some '[' → ']' ∈ before) :
    (binding.Shows (group body) ∨
      '/' ∈ before ∧ Text.lower (group body) <:+: binding.protocol.toList) ∧
    (Text.lower (group body) = group body → binding.Shows (group body)) := by
  have hkept : binding.Shows (group body) ∨
      '/' ∈ before ∧ Text.lower (group body) <:+: binding.protocol.toList := by
    obtain ⟨rest, protocol, entry, hprotocol, hparts, hbinding⟩ := parse?_eq_some_iff.mp hread
    have htrim := h.trim
    have hclosing : ']' ∈ before → ']' ∈ before.dropWhile Text.isBlank :=
      mem_dropWhile_isBlank (by decide)
    generalize Text.trim written.toList = trimmed at hprotocol htrim hbrackets
    cases hprotocol with
    | absent =>
      have hpart := hparts.hasGroup htrim fun hhead => hclosing (hbrackets hhead)
      exact .inl (shows_of_hasGroup hbinding hpart)
    | written hclosed _ =>
      obtain ⟨others, hrest⟩ | ⟨others, hslash, hprotocol⟩ :=
        htrim.of_append_cons divides_slash hclosed
      · have hpart := hparts.hasGroup hrest fun hhead =>
          hclosing (hbrackets (by rw [List.head?_append, hhead]; rfl))
        exact .inl (shows_of_hasGroup hbinding hpart)
      · have hmem : '/' ∈ before.dropWhile Text.isBlank := by simp [hslash]
        obtain ⟨-, -, -, hread⟩ := eq_of_ofParts? hbinding
        refine .inr ⟨(List.dropWhile_sublist _).subset hmem, ?_⟩
        rw [hread, String.toList_ofList, protocolOf, Option.map_some, Option.getD_some,
          hprotocol.eq]
        exact group_infix_lower _ _ _
  refine ⟨hkept, fun hsmall => hkept.elim id fun hprotocol => ?_⟩
  rw [hsmall] at hprotocol
  exact .inr (.inr (.inr hprotocol.2))

/-- A group with a group and a slash in it, behind an interface in brackets and before a protocol
with a capital. -/
theorem shows_or_of_holds_nested :
    parse? " [::]:$\x7bA-$\x7bB\x7d/c\x7d:80/$\x7bP\x7d" = some ⟨"::",
      some (.unresolved "$\x7bA-$\x7bB\x7d/c\x7d"), .literal ⟨80, 80⟩, "$\x7bp\x7d"⟩ ∧
    Holds " [::]:$\x7bA-$\x7bB\x7d/c\x7d:80/$\x7bP\x7d".toList " [::]:".toList
      "A-$\x7bB\x7d/c".toList ":80/$\x7bP\x7d".toList ∧
    ']' ∈ " [::]:".toList ∧
    Shows ⟨"::", some (.unresolved "$\x7bA-$\x7bB\x7d/c\x7d"), .literal ⟨80, 80⟩, "$\x7bp\x7d"⟩
      (group "A-$\x7bB\x7d/c".toList) := by
  have hread : parse? " [::]:$\x7bA-$\x7bB\x7d/c\x7d:80/$\x7bP\x7d" = some ⟨"::",
      some (.unresolved "$\x7bA-$\x7bB\x7d/c\x7d"), .literal ⟨80, 80⟩, "$\x7bp\x7d"⟩ := by
    decide +kernel
  have hinner : Enclosed ['B'] := enclosed_plain (by decide) (by decide)
  have hrest : Enclosed ['/', 'c'] := enclosed_plain (by decide) (by decide)
  have henclosed : Enclosed "A-$\x7bB\x7d/c".toList :=
    .char (by decide) (by decide) (.char (by decide) (by decide) (.group hinner hrest))
  have hholds : Holds " [::]:$\x7bA-$\x7bB\x7d/c\x7d:80/$\x7bP\x7d".toList " [::]:".toList
      "A-$\x7bB\x7d/c".toList ":80/$\x7bP\x7d".toList :=
    ⟨henclosed, by decide, by decide⟩
  have hclosing : ']' ∈ " [::]:".toList := by decide
  exact ⟨hread, hholds, hclosing,
    (shows_or_of_holds hread hholds fun _ => hclosing).1.resolve_right (by simp)⟩

/-- Every group of a port that does not stand in brackets occurs in its binding as it is written. -/
def KeepsAsWritten (written : String) : Prop :=
  ∀ binding, parse? written = some binding → ∀ before body after,
    Holds written.toList before body after →
      ((Text.trim written.toList).head? = some '[' → ']' ∈ before) → binding.Shows (group body)

/-- **A variable in the place of the protocol does not**: its name is put into small letters. -/
theorem not_keepsAsWritten_protocol : ¬ KeepsAsWritten "80:80/$\x7bPROTO\x7d" := by
  intro h
  have hread : parse? "80:80/$\x7bPROTO\x7d" =
      some ⟨"0.0.0.0", some (.literal ⟨80, 80⟩), .literal ⟨80, 80⟩, "$\x7bproto\x7d"⟩ := by
    decide +kernel
  have hholds : Holds "80:80/$\x7bPROTO\x7d".toList "80:80/".toList "PROTO".toList [] :=
    ⟨enclosed_plain (by decide) (by decide), by decide, by decide⟩
  obtain hinterface | ⟨_, hhost, -⟩ | ⟨_, hcontainer, -⟩ | hprotocol :=
    h _ hread _ _ _ hholds (by decide)
  · exact absurd hinterface (by decide)
  · cases hhost
  · cases hcontainer
  · exact absurd hprotocol (by decide)

end PortBinding

end ComposeLint
