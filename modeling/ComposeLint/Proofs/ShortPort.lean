import ComposeLint.Proofs.Canonical
import ComposeLint.Proofs.Closed
import ComposeLint.Proofs.Port

/-!
# What stands where in the short form of a port

A port in the short form is accepted exactly when its text has the parts of a binding
(`PortBinding.parse?_eq_some_iff`). The relations here say which texts have which parts without
reading them: a protocol is what stands behind the last exposed slash (`HasProtocol`), and before
it stand one or two sides, with an address before them or an interface in brackets
(`HasParts`). Behind this is one fact on splitting: what the last separator leaves are the last part
and the parts of what stands before it (`split_cases`).
-/

namespace ComposeLint

open Substitution

/-! ## The last part -/

namespace Substitution

variable {sep : Char} {text : List Char}

/-- **A text is one part, or its last separator leaves the last one.** -/
theorem split_cases (hsep : Divides sep) (text : List Char) :
    (Uncut sep text ∧ split sep text = [text]) ∨
      ∃ before last, text = before ++ sep :: last ∧ Closed before ∧ Uncut sep last ∧
        split sep text = split sep before ++ [last] := by
  cases hcut : cutLast? sep text with
  | none =>
    have huncut := cutLast?_eq_none_iff.mp hcut
    exact .inl ⟨huncut, split_of_uncut huncut⟩
  | some cut =>
    obtain ⟨before, last⟩ := cut
    obtain ⟨rfl, hclosed, huncut⟩ := (cutLast?_eq_some_iff hsep).mp hcut
    refine .inr ⟨before, last, rfl, hclosed, huncut, ?_⟩
    rw [split_of_mark hsep.separates (mark_append_divides hsep hclosed last),
      split_of_uncut huncut]

end Substitution

/-- What is written of a port beside its protocol. -/
structure PortEntry where
  interface : Option (List Char)
  host : Option (List Char)
  container : List Char

/-- What is written of a port as a binding. -/
def PortEntry.binding? (entry : PortEntry) (protocol : List Char) : Option PortBinding :=
  PortBinding.ofParts? (entry.interface.getD []) (entry.host.getD []) entry.container protocol

namespace PortBinding

variable {text rest protocol interface host container : List Char} {entry : PortEntry}
  {binding : PortBinding}

/-! ## The parts of a text -/

/-- Where the protocol stands: behind the last exposed slash, or nowhere. -/
inductive HasProtocol : List Char → List Char → Option (List Char) → Prop
  | absent {rest : List Char} : Uncut '/' rest → HasProtocol rest rest none
  | written {rest protocol : List Char} : Closed rest → Uncut '/' protocol →
      HasProtocol (rest ++ '/' :: protocol) rest (some protocol)

/-- Where the sides stand: the container alone, or behind the host and a colon. -/
inductive HasSides : List Char → Option (List Char) → List Char → Prop
  | container {container : List Char} : Uncut ':' container → HasSides container none container
  | both {host container : List Char} : Closed host → Uncut ':' host → Uncut ':' container →
      HasSides (host ++ ':' :: container) (some host) container

/-- What stands before the protocol: sides, an address before two of them, or an interface in
brackets before one or two. -/
inductive HasParts : List Char → PortEntry → Prop
  | sides {text : List Char} {host : Option (List Char)} {container : List Char} :
      text.head? ≠ some '[' → HasSides text host container →
        HasParts text ⟨none, host, container⟩
  | address {address sides host container : List Char} :
      (address ++ ':' :: sides).head? ≠ some '[' → Closed address →
        HasSides sides (some host) container →
          HasParts (address ++ ':' :: sides) ⟨some address, some host, container⟩
  | bracketed {address sides container : List Char} {host : Option (List Char)} :
      ']' ∉ address → HasSides sides host container →
        HasParts ('[' :: (address ++ ']' :: ':' :: sides)) ⟨some address, host, container⟩

/-- The protocol that is read of a text, or the default one. -/
def protocolOf (protocol : Option (List Char)) : List Char :=
  (protocol.map Text.lower).getD defaultProtocol.toList

/-! ## Sides and segments -/

theorem HasSides.split_eq {host : Option (List Char)} (h : HasSides text host container) :
    split ':' text = host.toList ++ [container] := by
  cases h with
  | container huncut => exact split_of_uncut huncut
  | both hclosed hhost hcontainer =>
    rw [split_append_colon hclosed hhost, split_of_uncut hcontainer]
    rfl

/-- **A text has one or two sides, or an address before two of them.** -/
theorem hasSides_cases (text : List Char) :
    (∃ host container, HasSides text host container) ∨
      ∃ address sides host container, text = address ++ ':' :: sides ∧ Closed address ∧
        HasSides sides (some host) container := by
  obtain ⟨huncut, -⟩ | ⟨before, container, rfl, hbefore, hcontainer, -⟩ :=
    split_cases divides_colon text
  · exact .inl ⟨none, text, .container huncut⟩
  · obtain ⟨huncut, -⟩ | ⟨address, host, rfl, haddress, hhost, -⟩ :=
      split_cases divides_colon before
    · exact .inl ⟨some before, container, .both hbefore huncut hcontainer⟩
    · have hclosed : Closed host := (closed_append_cons_iff divides_colon haddress).mp hbefore
      exact .inr ⟨address, host ++ ':' :: container, host, container,
        by rw [List.append_assoc, List.cons_append], haddress, .both hclosed hhost hcontainer⟩

theorem ofSegments?_sides (bracketed host : Option (List Char)) (container protocol : List Char) :
    ofSegments? bracketed (host.toList ++ [container]) protocol =
      ofParts? (bracketed.getD []) (host.getD []) container protocol := by
  cases host <;> rfl

/-- The segments before the last two are put together to an address again, unless there is one in
brackets. -/
theorem ofSegments?_append {segments : List (List Char)} (hne : segments ≠ [])
    (bracketed : Option (List Char)) (host container protocol : List Char) :
    ofSegments? bracketed (segments ++ [host, container]) protocol =
      if bracketed.isSome then none
      else ofParts? ([':'].intercalate segments) host container protocol := by
  obtain ⟨last, others, hreverse⟩ :=
    List.exists_cons_of_ne_nil (List.reverse_ne_nil_iff.mpr hne)
  have hsegments : segments = (last :: others).reverse := by rw [← hreverse, List.reverse_reverse]
  rw [ofSegments?, hsegments]
  simp only [List.reverse_append, List.reverse_cons, List.reverse_nil, List.nil_append,
    List.cons_append, List.reverse_reverse]
  cases bracketed <;> rfl

/-- Where an address stands before two sides. -/
theorem split_address {address sides : List Char} (haddress : Closed address)
    (hsides : HasSides sides (some host) container) :
    split ':' (address ++ ':' :: sides) = split ':' address ++ [host, container] := by
  rw [split_of_mark separates_colon (mark_append_divides divides_colon haddress sides),
    hsides.split_eq]
  rfl

/-! ## Brackets -/

/-- **What stands in brackets** is what the first closing bracket ends, if a colon follows it. -/
theorem splitBracketed?_eq_some_iff {bracketed : Option (List Char)} :
    splitBracketed? text = some (bracketed, rest) ↔
      (text.head? ≠ some '[' ∧ bracketed = none ∧ rest = text) ∨
        ∃ address, ']' ∉ address ∧ bracketed = some address ∧
          text = '[' :: (address ++ ']' :: ':' :: rest) := by
  constructor
  · intro h
    by_cases hhead : text.head? = some '['
    · obtain ⟨inside, rfl⟩ := List.head?_eq_some_iff.mp hhead
      rw [splitBracketed?] at h
      split at h
      · next address after hcut =>
        obtain ⟨c, hinside, hc, hbefore⟩ := Text.cutFirst?_eq_some_iff.mp hcut
        obtain rfl : c = ']' := beq_iff_eq.mp hc
        simp only [Option.some.injEq, Prod.mk.injEq] at h
        obtain ⟨rfl, rfl⟩ := h
        have hnot : ']' ∉ address := fun hmem => by simpa using hbefore ']' hmem
        exact .inr ⟨address, hnot, rfl, by rw [hinside]⟩
      · cases h
    · rw [splitBracketed?_of_ne fun c hc heq => hhead (heq ▸ hc)] at h
      simp only [Option.some.injEq, Prod.mk.injEq] at h
      exact .inl ⟨hhead, h.1.symm, h.2.symm⟩
  · rintro (⟨hhead, rfl, rfl⟩ | ⟨address, hnot, rfl, rfl⟩)
    · exact splitBracketed?_of_ne fun c hc heq => hhead (heq ▸ hc)
    · exact splitBracketed?_bracketed hnot rest

/-! ## The whole text -/

/-- **Parts are read as the binding of what is written.** -/
theorem HasParts.ofSegments?_eq (hparts : HasParts text entry) (protocol : List Char) :
    ∃ bracketed sides, splitBracketed? text = some (bracketed, sides) ∧
      ofSegments? bracketed (split ':' sides) protocol = entry.binding? protocol := by
  cases hparts with
  | sides hhead hsides =>
    refine ⟨_, _, splitBracketed?_eq_some_iff.mpr (.inl ⟨hhead, rfl, rfl⟩), ?_⟩
    rw [hsides.split_eq, ofSegments?_sides]
    rfl
  | address hhead haddress hsides =>
    refine ⟨_, _, splitBracketed?_eq_some_iff.mpr (.inl ⟨hhead, rfl, rfl⟩), ?_⟩
    rw [split_address haddress hsides, ofSegments?_append (split_ne_nil _ _),
      intercalate_split]
    rfl
  | bracketed hnot hsides =>
    refine ⟨_, _, splitBracketed?_eq_some_iff.mpr (.inr ⟨_, hnot, rfl, rfl⟩), ?_⟩
    rw [hsides.split_eq, ofSegments?_sides]
    rfl

/-- **What is accepted has parts.** -/
theorem exists_hasParts {bracketed : Option (List Char)} {sides : List Char}
    (hbracketed : splitBracketed? text = some (bracketed, sides))
    (h : ofSegments? bracketed (split ':' sides) protocol = some binding) :
    ∃ entry, HasParts text entry := by
  obtain ⟨host, container, hsides⟩ | ⟨address, sides, host, container, rfl, haddress, hsides⟩ :=
    hasSides_cases sides
  · obtain ⟨hhead, -, rfl⟩ | ⟨address, hnot, -, rfl⟩ := splitBracketed?_eq_some_iff.mp hbracketed
    · exact ⟨_, .sides hhead hsides⟩
    · exact ⟨_, .bracketed hnot hsides⟩
  · obtain ⟨hhead, -, rfl⟩ | ⟨_, -, rfl, -⟩ := splitBracketed?_eq_some_iff.mp hbracketed
    · exact ⟨_, .address hhead haddress hsides⟩
    · rw [split_address haddress hsides, ofSegments?_append (split_ne_nil _ _)] at h
      cases h

/-- **The protocol is split off** where it stands. -/
theorem splitProtocol_eq_iff {small : List Char} : splitProtocol text = (rest, small) ↔
    ∃ protocol, HasProtocol text rest protocol ∧ protocolOf protocol = small := by
  constructor
  · intro h
    rw [splitProtocol] at h
    split at h
    · next before protocol hcut =>
      obtain ⟨rfl, hclosed, huncut⟩ := (cutLast?_eq_some_iff divides_slash).mp hcut
      obtain ⟨rfl, rfl⟩ := Prod.mk.inj h
      exact ⟨some protocol, .written hclosed huncut, rfl⟩
    · next hcut =>
      obtain ⟨rfl, rfl⟩ := Prod.mk.inj h
      exact ⟨none, .absent (cutLast?_eq_none_iff.mp hcut), rfl⟩
  · rintro ⟨protocol, hprotocol, rfl⟩
    cases hprotocol with
    | absent huncut => rw [splitProtocol, cutLast?_eq_none_iff.mpr huncut]; rfl
    | written hclosed huncut =>
      rw [splitProtocol, (cutLast?_eq_some_iff divides_slash).mpr ⟨rfl, hclosed, huncut⟩]
      rfl

/-- **A short form is read by its parts**, whether it is accepted or not. -/
theorem parse?_of_hasParts {written : String} {protocol : Option (List Char)}
    (hprotocol : HasProtocol (Text.trim written.toList) rest protocol)
    (hparts : HasParts rest entry) : parse? written = entry.binding? (protocolOf protocol) := by
  obtain ⟨bracketed, sides, hbracketed, hread⟩ := hparts.ofSegments?_eq (protocolOf protocol)
  rw [parse?, splitProtocol_eq_iff.mpr ⟨protocol, hprotocol, rfl⟩]
  simp only [hbracketed, Option.bind_eq_bind, Option.bind_some, hread]

/-- **A short form is accepted exactly when it has the parts of a binding.** -/
theorem parse?_eq_some_iff {written : String} : parse? written = some binding ↔
    ∃ rest protocol entry, HasProtocol (Text.trim written.toList) rest protocol ∧
      HasParts rest entry ∧ entry.binding? (protocolOf protocol) = some binding := by
  constructor
  · intro h
    obtain ⟨protocol, hprotocol, -⟩ := splitProtocol_eq_iff.mp (Prod.eta _).symm
    have hread := h
    simp only [parse?, Option.bind_eq_bind, Option.bind_eq_some_iff, Prod.exists] at hread
    obtain ⟨bracketed, sides, hbracketed, hsegments⟩ := hread
    obtain ⟨entry, hparts⟩ := exists_hasParts hbracketed hsegments
    exact ⟨_, protocol, entry, hprotocol, hparts, by rw [← parse?_of_hasParts hprotocol hparts, h]⟩
  · rintro ⟨rest, protocol, entry, hprotocol, hparts, hbinding⟩
    rw [parse?_of_hasParts hprotocol hparts, hbinding]

/-! ## The sides of a binding -/

/-- **What the parts of a binding are read as.** The sides are read each on its own, and an empty
host side is none. -/
theorem eq_of_ofParts? (h : ofParts? interface host container protocol = some binding) :
    binding.hostInterface =
        (if interface.isEmpty then allInterfaces else String.ofList interface) ∧
      (PortSide.parse? host = binding.hostPort ∧ (host ≠ [] → binding.hostPort ≠ none)) ∧
      PortSide.parse? container = some binding.containerPort ∧
      binding.protocol = String.ofList protocol := by
  rw [ofParts?] at h
  split at h
  · next hempty =>
    simp only [Option.bind_eq_bind, Option.bind_some, Option.bind_eq_some_iff] at h
    obtain ⟨containerPort, hcontainer, hbinding⟩ := h
    cases hbinding
    rw [List.isEmpty_iff.mp hempty]
    exact ⟨rfl, ⟨rfl, by simp⟩, hcontainer, rfl⟩
  · simp only [Option.bind_eq_bind, Option.bind_eq_some_iff, Option.map_eq_some_iff] at h
    obtain ⟨_, ⟨side, hside, rfl⟩, containerPort, hcontainer, hbinding⟩ := h
    cases hbinding
    exact ⟨rfl, ⟨hside, by simp⟩, hcontainer, rfl⟩

end PortBinding

/-! ## Literal sides -/

/-- What is read as a range is a number, or two numbers with a hyphen between them. -/
theorem PortRange.exists_digits {text : List Char} {range : PortRange}
    (h : parse? text = some range) : (∃ number : Digits, text = number.chars) ∨
      ∃ first last : Digits, text = first.chars ++ '-' :: last.chars := by
  have hdigits : ∀ c ∈ text.takeWhile Char.isDigit, c.isDigit = true := fun c hc =>
    List.all_eq_true.mp List.all_takeWhile c hc
  have htext : text = text.takeWhile Char.isDigit ++ text.dropWhile Char.isDigit :=
    List.takeWhile_append_dropWhile.symm
  rw [parse?, Number.spanDigits, List.span_eq_takeWhile_dropWhile] at h
  generalize text.takeWhile Char.isDigit = start at h hdigits htext
  generalize text.dropWhile Char.isDigit = rest at h htext
  subst htext
  by_cases hstart : start = []
  · rw [hstart] at h
    cases h
  let first : Digits := ⟨start, hstart, hdigits⟩
  simp only [List.isEmpty_iff, hstart, if_false] at h
  split at h
  · next last hlast =>
    -- Behind the first number stands nothing, or a hyphen and a number.
    split at hlast
    · exact .inl ⟨first, List.append_nil _⟩
    · next stop =>
      split at hlast
      · cases hlast
      · next hstop =>
        simp only [Bool.or_eq_true, not_or, Bool.not_eq_true', Bool.not_eq_true] at hstop
        exact .inr ⟨first, ⟨stop, by simpa using hstop.1, by simpa using hstop.2⟩, rfl⟩
    · cases hlast
  · cases h

/-- **A number means what is read of it.** -/
theorem PortText.side?_port (number : Digits) :
    side? (.port number) = (PortRange.parse? number.chars).map .literal := by
  rw [PortRange.parse?_port, side?]
  split <;> rfl

/-- So do two numbers. -/
theorem PortText.side?_range (first last : Digits) :
    side? (.range first last) =
      (PortRange.parse? (first.chars ++ '-' :: last.chars)).map .literal := by
  rw [PortRange.parse?_range, side?]
  split <;> rfl

/-- **A range is read** where a number or two numbers in order stand, and nothing else. -/
theorem PortRange.parse?_eq_some_iff {text : List Char} {range : PortRange} :
    parse? text = some range ↔
      ∃ side : PortText, side.chars = text ∧ side.side? = some (.literal range) := by
  constructor
  · intro h
    obtain ⟨number, rfl⟩ | ⟨first, last, rfl⟩ := exists_digits h
    · exact ⟨.port number, rfl, by rw [PortText.side?_port, h, Option.map_some]⟩
    · exact ⟨.range first last, rfl, by rw [PortText.side?_range, h, Option.map_some]⟩
  · have hliteral : ∀ {read : Option PortRange},
        read.map PortSide.literal = some (.literal range) → read = some range := by
      rintro (_ | read) h <;> cases h
      rfl
    rintro ⟨side, rfl, hside⟩
    cases side with
    | port number => exact hliteral ((PortText.side?_port number).symm.trans hside)
    | range first last => exact hliteral ((PortText.side?_range first last).symm.trans hside)
    | group body enclosed => cases hside

namespace PortSide

variable {text : List Char} {range : PortRange}

/-- **A side is literal** if numbers stand between its blanks. -/
theorem parse?_eq_literal_iff : parse? text = some (.literal range) ↔
    ∃ side : PortText, side.chars = Text.trim text ∧ side.side? = some (.literal range) := by
  rw [parse?]
  constructor
  · intro h
    split at h
    · cases h
    · obtain ⟨range, hrange, heq⟩ := Option.map_eq_some_iff.mp h
      cases heq
      exact PortRange.parse?_eq_some_iff.mp hrange
  · rintro ⟨side, hchars, hside⟩
    have hplain : occursIn text = false := by
      refine Bool.eq_false_iff.mpr fun hoccurs => ?_
      -- A reference in the text would be one between the blanks.
      have htrim : occursIn side.chars = true := by
        rw [hchars]
        exact occursIn_iff_refers.mpr (occursIn_iff_refers.mp hoccurs).trim
      have hread := parse?_chars side
      rw [parse?, if_pos htrim, hside] at hread
      cases hread
    rw [hplain, PortRange.parse?_eq_some_iff.mpr ⟨side, hchars, hside⟩]
    rfl

/-- A side that is not literal is the text between its blanks. -/
theorem parse?_eq_unresolved_iff {expression : String} :
    parse? text = some (.unresolved expression) ↔
      occursIn text = true ∧ expression = String.ofList (Text.trim text) := by
  rw [parse?]
  split
  · next hoccurs => simp [hoccurs, eq_comm]
  · next hplain => simp [hplain]

end PortSide

end ComposeLint
