import ComposeLint.Proofs.ShortPort
import ComposeLint.Proofs.SmallLetters

/-!
# Ports as they are rendered

A binding is rendered in the short form without its interface, and its text is read as the binding
again, on every interface (`PortBinding.parse?_text`). It need not be the text that was read: zeros
in front, blanks around a side, a range of one port and the default protocol are gone. What makes
this work is that everything the reader puts into a binding is read as itself: a literal range is
written by the digits of its numbers (`PortRange.side?_written`), and a protocol is in small letters
already, is cut by no slash and ends without a blank (`IsProtocol`).
-/

namespace ComposeLint

open Substitution

/-! ## Numbers and ranges -/

/-- The digits of a number. -/
def Digits.ofNat (n : Nat) : Digits where
  chars := Nat.toDigits 10 n
  ne_nil := Nat.toDigits_ne_nil
  isDigit _ hc := Nat.isDigit_of_mem_toDigits (by decide) (by decide) hc

theorem Digits.value_ofNat (n : Nat) : (ofNat n).value = n := by
  have hvalue := Nat.ofDigitChars_ten_toDigits (n := n)
  rwa [Nat.ofDigitChars_eq_foldl] at hvalue

namespace PortRange

variable {range : PortRange}

/-- How the text of a range is written. -/
def written (range : PortRange) : PortText :=
  if range.first = range.last then .port (.ofNat range.first)
  else .range (.ofNat range.first) (.ofNat range.last)

theorem toList_text (range : PortRange) : range.text.toList = range.written.chars := by
  have hdigits : ∀ n : Nat, (toString n).toList = (Digits.ofNat n).chars := fun n => by
    simp [Digits.ofNat, toString, Nat.repr]
  rw [text, written]
  split
  · exact hdigits _
  · rw [String.toList_append, String.toList_append, hdigits, hdigits, PortText.chars,
      List.append_assoc]
    rfl

/-- **The text of a range means the range.** -/
theorem side?_written (hordered : range.first ≤ range.last) (hmax : range.last ≤ maxPort) :
    range.written.side? = some (.literal range) := by
  rw [written]
  split
  · next hport =>
    rw [PortText.side?, Digits.value_ofNat, if_pos (hport ▸ hmax)]
    congr
  · rw [PortText.side?, Digits.value_ofNat, Digits.value_ofNat, if_pos ⟨hordered, hmax⟩]

end PortRange

/-! ## Protocols -/

namespace PortBinding

variable {cs rest : List Char} {protocol : Option (List Char)}

/-- What a protocol is that has been read. -/
structure IsProtocol (protocol : List Char) : Prop where
  uncut : Uncut '/' protocol
  last : ∀ c ∈ protocol.getLast?, Text.isBlank c = false
  small : Text.lower protocol = protocol

/-- **A protocol that is read is read as itself.** -/
theorem isProtocol_protocolOf (h : HasProtocol (Text.trim cs) rest protocol) :
    IsProtocol (protocolOf protocol) := by
  generalize htrim : Text.trim cs = trimmed at h
  cases h with
  | absent =>
    have hlast : (protocolOf none).getLast? = some 'p' := by decide
    refine ⟨uncut_plain (by decide) (by decide), ?_, by decide⟩
    rw [hlast]
    rintro c ⟨⟩
    decide
  | @written before protocol _ huncut =>
    refine ⟨huncut.lower, Text.isBlank_of_mem_getLast?_lowerAfter (fun c hc => ?_) [],
      Text.lower_lower protocol⟩
    -- The protocol stands at the end of a trimmed text.
    have hlast : (Text.trim cs).getLast? = some c := by
      rw [htrim, List.getLast?_append_of_ne_nil _ (List.cons_ne_nil _ _),
        List.getLast?_cons_of_ne_nil (by rintro rfl; cases hc)]
      exact hc
    exact Text.isBlank_of_mem_getLast?_trim hlast

theorem isProtocol_of_parse? {written : String} {binding : PortBinding}
    (h : parse? written = some binding) : IsProtocol binding.protocol.toList := by
  obtain ⟨rest, protocol, entry, hprotocol, -, hbinding⟩ := parse?_eq_some_iff.mp h
  obtain ⟨-, -, -, hread⟩ := eq_of_ofParts? hbinding
  rw [hread, String.toList_ofList]
  exact isProtocol_protocolOf hprotocol

/-! ## Reading a text again -/

/-- **A form is read under any protocol** that is cut by no slash and ends without a blank. -/
theorem parse?_form_append (form : PortForm) {protocol : List Char} (huncut : Uncut '/' protocol)
    (hlast : ∀ c ∈ protocol.getLast?, Text.isBlank c = false) :
    parse? (String.ofList (form.chars ++ '/' :: protocol)) =
      form.binding? (String.ofList (Text.lower protocol)) := by
  have hends := form.ends
  have htrim : Text.trim (form.chars ++ '/' :: protocol) = form.chars ++ '/' :: protocol := by
    refine Text.trim_eq_self ?_ ?_
    · rw [List.head?_append_of_ne_nil _ hends.1]
      exact hends.2.1
    · rw [List.getLast?_append_of_ne_nil _ (List.cons_ne_nil _ _)]
      by_cases hempty : protocol = []
      · subst hempty
        rintro c ⟨⟩
        decide
      · rwa [List.getLast?_cons_of_ne_nil hempty]
  have hsplit : splitProtocol (form.chars ++ '/' :: protocol) =
      (form.chars, Text.lower protocol) := by
    rw [splitProtocol, cutLast?_append_sep separates_slash form.solid.balanced huncut]
  rw [parse?, String.toList_ofList, htrim, hsplit]
  exact (ofSegments?_form form _).trans (ofParts?_form form _)

/-- What a binding with literal sides is rendered as, without its protocol. -/
def renderedForm (host : Option PortRange) (container : PortRange) : PortForm :=
  .sides (host.map PortRange.written) container.written

theorem toList_text (hostInterface protocol : String) (host : Option PortRange)
    (container : PortRange) :
    (text ⟨hostInterface, host.map .literal, .literal container, protocol⟩).toList =
      (renderedForm host container).chars ++
        if protocol = defaultProtocol then [] else '/' :: protocol.toList := by
  by_cases hprotocol : protocol = defaultProtocol <;> cases host <;>
    simp [text, PortSide.text, hprotocol, renderedForm, PortForm.chars, PortForm.sideChars,
      PortRange.toList_text]

/-- What is rendered of ranges that are in order means these ranges. -/
theorem binding?_renderedForm {host : Option PortRange} {container : PortRange}
    (hhost : ∀ range ∈ host, range.first ≤ range.last ∧ range.last ≤ maxPort)
    (hcontainer : container.first ≤ container.last ∧ container.last ≤ maxPort)
    (protocol : String) : (renderedForm host container).binding? protocol =
      some ⟨allInterfaces, host.map .literal, .literal container, protocol⟩ := by
  have hside : container.written.side? = some (.literal container) :=
    PortRange.side?_written hcontainer.1 hcontainer.2
  cases host with
  | none => simp [renderedForm, PortForm.binding?, PortForm.published, PortForm.target,
      PortForm.ip, hside]
  | some host =>
    have hhost : host.written.side? = some (.literal host) :=
      PortRange.side?_written (hhost host rfl).1 (hhost host rfl).2
    simp [renderedForm, PortForm.binding?, PortForm.published, PortForm.target, PortForm.ip, hside,
      hhost]

/-- **A rendered port is read as the same port on every interface.** -/
theorem parse?_text {written : String} {binding : PortBinding} (h : parse? written = some binding)
    (hhost : ∀ side ∈ binding.hostPort, ∃ range, side = .literal range)
    (hcontainer : ∃ range, binding.containerPort = .literal range) :
    parse? binding.text = some { binding with hostInterface := "0.0.0.0" } := by
  have hcanonical := canonical_of_parse? h
  have hprotocol := isProtocol_of_parse? h
  obtain ⟨hostInterface, hostPort, containerPort, protocol⟩ := binding
  obtain ⟨container, rfl⟩ := hcontainer
  obtain ⟨host, rfl⟩ : ∃ host : Option PortRange, hostPort = host.map .literal := by
    cases hostPort with
    | none => exact ⟨none, rfl⟩
    | some side =>
      obtain ⟨range, rfl⟩ := hhost side rfl
      exact ⟨some range, rfl⟩
  have hordered : ∀ {range : PortRange}, (PortSide.literal range).Canonical →
      range.first ≤ range.last ∧ range.last ≤ maxPort := by
    rintro range ⟨hordered, hmax⟩
    exact ⟨hordered, hmax⟩
  have hform : (renderedForm host container).binding? protocol =
      some ⟨"0.0.0.0", host.map .literal, .literal container, protocol⟩ :=
    binding?_renderedForm
      (fun range hrange => hordered (hcanonical.hostPort _ (Option.mem_map_of_mem _ hrange)))
      (hordered hcanonical.containerPort) protocol
  rw [← String.ofList_toList (s := text _), toList_text]
  split
  -- The default protocol is not rendered, and read where none is written.
  · next hdefault =>
    rw [← hform, hdefault]
    exact parse?_short ⟨renderedForm host container, none⟩
  · rw [parse?_form_append _ hprotocol.uncut hprotocol.last, hprotocol.small, ← hform]
    exact congrArg _ (String.ofList_toList)

/-- Zeros, blanks, an address, and a protocol with a slash in a group and the Kelvin sign behind it.
-/
theorem parse?_text_spelled :
    parse? " [::1]: 08000-8001:\t0080/$\x7bA/b\x7d\u212a " = some ⟨"::1",
      some (.literal ⟨8000, 8001⟩), .literal ⟨80, 80⟩, "$\x7ba/b\x7dk"⟩ ∧
    text ⟨"::1", some (.literal ⟨8000, 8001⟩), .literal ⟨80, 80⟩, "$\x7ba/b\x7dk"⟩ =
      "8000-8001:80/$\x7ba/b\x7dk" ∧
    parse? "8000-8001:80/$\x7ba/b\x7dk" = some ⟨"0.0.0.0",
      some (.literal ⟨8000, 8001⟩), .literal ⟨80, 80⟩, "$\x7ba/b\x7dk"⟩ := by
  have hparse : parse? " [::1]: 08000-8001:\t0080/$\x7bA/b\x7d\u212a " = some ⟨"::1",
      some (.literal ⟨8000, 8001⟩), .literal ⟨80, 80⟩, "$\x7ba/b\x7dk"⟩ := by
    decide +kernel
  have htext : text ⟨"::1", some (.literal ⟨8000, 8001⟩), .literal ⟨80, 80⟩,
      "$\x7ba/b\x7dk"⟩ = "8000-8001:80/$\x7ba/b\x7dk" := by
    decide +kernel
  have hread := parse?_text hparse (by simp) ⟨_, rfl⟩
  rw [htext] at hread
  exact ⟨hparse, htext, hread⟩

end PortBinding

end ComposeLint
