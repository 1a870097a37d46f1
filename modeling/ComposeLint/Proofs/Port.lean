import ComposeLint.Manifest.Reading
import ComposeLint.Proofs.ReadingOrder
import ComposeLint.Proofs.Substitution
import Mathlib.Data.List.TakeDrop

/-!
# The two ways of writing a port

`WrittenPort` is a port before it is written: the sides, an address and a protocol, each a text
of its own kind. It can be written in the short form (`WrittenPort.short`), where separators hold
the parts together, and in the long form (`WrittenPort.long`), where every part has a field, and
`WrittenPort.binding?` says what it means without reading either. Both are read as what they mean
(`PortBinding.parse?_short`, `readPort_long`), so they agree. What this rests on is that no part of
the short form is cut: a side is digits with a hyphen or one group, and an address may be cut at
colons only, where it is put together again.
-/

namespace ComposeLint

open Substitution

/-! ## Sides -/

/-- One or more decimal digits. -/
structure Digits where
  chars : List Char
  ne_nil : chars ≠ []
  isDigit : ∀ c ∈ chars, c.isDigit = true

/-- The number that digits denote. -/
def Digits.value (digits : Digits) : Nat := Number.digitsValue digits.chars

/-- How a side of a port is written: a number, two numbers with a hyphen between them, or one
group. -/
inductive PortText where
  | port (number : Digits)
  | range (first last : Digits)
  | group (body : List Char) (enclosed : Enclosed body)

/-- Digits are neither blank nor part of the syntax. -/
theorem isDigit_ordinary {c : Char} (h : c.isDigit = true) :
    Text.isBlank c = false ∧ c ≠ '$' ∧ c ≠ ':' ∧ c ≠ '/' ∧ c ≠ '[' ∧ c ≠ '-' := by
  have hrange : 48 ≤ c.toNat ∧ c.toNat ≤ 57 := by
    simpa [Char.isDigit, UInt32.le_iff_toNat_le] using h
  refine ⟨?_, ?_, ?_, ?_, ?_, ?_⟩
  · simp only [Text.isBlank, Bool.or_eq_false_iff, Bool.and_eq_false_iff, decide_eq_false_iff_not,
      beq_eq_false_iff_ne]
    omega
  all_goals
    rintro rfl
    simp at hrange

namespace PortText

/-- The text of a side. -/
def chars : PortText → List Char
  | port number => number.chars
  | range first last => first.chars ++ '-' :: last.chars
  | group body _ => Substitution.group body

/-- What a side means: ports in order, none above the largest, or a reference as it is written. -/
def side? : PortText → Option PortSide
  | port number =>
    if number.value ≤ maxPort then some (.literal ⟨number.value, number.value⟩) else none
  | range first last =>
    if first.value ≤ last.value ∧ last.value ≤ maxPort then
      some (.literal ⟨first.value, last.value⟩)
    else none
  | group body _ => some (.unresolved (String.ofList (Substitution.group body)))

/-- No side is empty, and none has a blank at an end. -/
theorem ends (side : PortText) :
    side.chars ≠ [] ∧ (∀ c ∈ side.chars.head?, Text.isBlank c = false ∧ c ≠ '[') ∧
      ∀ c ∈ side.chars.getLast?, Text.isBlank c = false := by
  have hdigits : ∀ (digits : Digits) {c : Char}, c ∈ digits.chars →
      Text.isBlank c = false ∧ c ≠ '[' := fun digits c hc =>
    have h := isDigit_ordinary (digits.isDigit c hc)
    ⟨h.1, h.2.2.2.2.1⟩
  cases side with
  | port number =>
    exact ⟨number.ne_nil, fun c hc => hdigits number (List.mem_of_mem_head? hc),
      fun c hc => (hdigits number (List.mem_of_mem_getLast? hc)).1⟩
  | range first last =>
    refine ⟨by simp [chars], fun c hc => ?_, fun c hc => ?_⟩
    · rw [chars, List.head?_append_of_ne_nil _ first.ne_nil] at hc
      exact hdigits first (List.mem_of_mem_head? hc)
    · rw [chars, List.getLast?_append_of_ne_nil _ (List.cons_ne_nil _ _),
        List.getLast?_cons_of_ne_nil last.ne_nil] at hc
      exact (hdigits last (List.mem_of_mem_getLast? hc)).1
  | group body _ =>
    refine ⟨by simp [chars, Substitution.group], ?_, ?_⟩
    · rintro c ⟨rfl⟩
      decide
    · intro c hc
      rw [chars, Substitution.group, List.getLast?_concat] at hc
      obtain rfl := Option.some.inj hc
      decide

/-- A side without a reference has no dollar and no separator. -/
theorem plain_digits (digits : Digits) {sep : Char} (hsep : sep.isDigit = false) :
    sep ∉ digits.chars := fun hmem => by
  rw [digits.isDigit sep hmem] at hsep
  cases hsep

/-- **Neither a colon nor a slash cuts a side.** -/
theorem solid (side : PortText) {sep : Char} (hsep : sep = ':' ∨ sep = '/') :
    Solid sep side.chars := by
  have hdigit : sep.isDigit = false ∧ sep ≠ '-' := by
    rcases hsep with rfl | rfl <;> decide
  cases side with
  | port number => exact solid_plain (plain_digits number rfl) (plain_digits number hdigit.1)
  | range first last =>
    refine solid_plain ?_ ?_
    · simp [chars, plain_digits first, plain_digits last]
    · simp [chars, plain_digits first hdigit.1, plain_digits last hdigit.1, hdigit.2]
  | group body enclosed => exact solid_group enclosed

end PortText

/-! ## Reading a side -/

/-- Without a dollar there is no reference. -/
theorem Substitution.occursIn_plain {cs : List Char} (h : '$' ∉ cs) : occursIn cs = false := by
  -- What stands before the text does not matter.
  have key : ∀ before, referenceAfter before cs = false := by
    induction cs with
    | nil => intro before; rfl
    | cons c cs ih =>
      intro before
      rw [List.mem_cons, not_or] at h
      have hc : (c == '$') = false := beq_eq_false_iff_ne.mpr (Ne.symm h.1)
      rw [referenceAfter, ih h.2, hc]
      rfl
  exact key none

/-- Digits are taken up to the first character that is none. -/
theorem Number.spanDigits_append {digits : List Char} (hdigits : ∀ c ∈ digits, c.isDigit = true)
    (rest : List Char) (hrest : ∀ c ∈ rest.head?, c.isDigit = false) :
    spanDigits (digits ++ rest) = (digits, rest) := by
  have hdrop : rest.dropWhile Char.isDigit = rest ∧ rest.takeWhile Char.isDigit = [] := by
    cases rest with
    | nil => exact ⟨rfl, rfl⟩
    | cons c rest => simp [hrest c rfl]
  rw [spanDigits, List.span_eq_takeWhile_dropWhile, List.takeWhile_append_of_pos hdigits,
    List.dropWhile_append_of_pos hdigits, hdrop.1, hdrop.2, List.append_nil]

namespace PortRange

/-- A number is read as the range of this one port. -/
theorem parse?_port (number : Digits) :
    parse? number.chars =
      if number.value ≤ maxPort then some ⟨number.value, number.value⟩ else none := by
  have hspan := Number.spanDigits_append number.isDigit [] (by simp)
  rw [List.append_nil] at hspan
  have hne : number.chars.isEmpty = false := by simpa using number.ne_nil
  rw [parse?, hspan]
  simp only [hne, Digits.value]
  grind

/-- A range is read if it is in order and ends at a port. -/
theorem parse?_range (first last : Digits) :
    parse? (first.chars ++ '-' :: last.chars) =
      if first.value ≤ last.value ∧ last.value ≤ maxPort then some ⟨first.value, last.value⟩
      else none := by
  have hspan := Number.spanDigits_append first.isDigit ('-' :: last.chars) (by simp)
  have hfirst : first.chars.isEmpty = false := by simpa using first.ne_nil
  have hlast : (last.chars.isEmpty || !last.chars.all Char.isDigit) = false := by
    simpa using ⟨last.ne_nil, last.isDigit⟩
  rw [parse?, hspan]
  simp only [hfirst, hlast, Digits.value]
  grind

end PortRange

/-- **What is read of a side is what it means.** -/
theorem PortSide.parse?_chars (side : PortText) : PortSide.parse? side.chars = side.side? := by
  have hends := side.ends
  have htrim : Text.trim side.chars = side.chars :=
    Text.trim_eq_self (fun c hc => (hends.2.1 c hc).1) hends.2.2
  rw [PortSide.parse?, htrim]
  cases side with
  | port number =>
    rw [PortText.chars, occursIn_plain (PortText.plain_digits number rfl), PortRange.parse?_port]
    simp only [PortText.side?, Bool.false_eq_true, if_false]
    split <;> rfl
  | range first last =>
    have hplain : '$' ∉ first.chars ++ '-' :: last.chars := by
      simp [PortText.plain_digits first, PortText.plain_digits last]
    rw [PortText.chars, occursIn_plain hplain, PortRange.parse?_range]
    simp only [PortText.side?, Bool.false_eq_true, if_false]
    split <;> rfl
  | group body _ =>
    rw [PortText.chars, occursIn_group]
    rfl

/-! ## A whole port -/

/-- What an address is written as: a text that the syntax of ports cannot take for anything else,
with any number of colons. -/
structure AddressText where
  chars : List Char
  ne_nil : chars ≠ []
  ordinary : ∀ c ∈ chars, Text.isBlank c = false ∧ c ≠ '/' ∧ c ≠ '$' ∧ c ≠ '[' ∧ c ≠ ']'

/-- What a protocol is written as; it may be empty. -/
structure ProtocolText where
  chars : List Char
  ordinary : ∀ c ∈ chars, Text.isBlank c = false ∧ c ≠ '/' ∧ c ≠ '$'

/-- Which sides and which address are written, and how they are held together. -/
inductive PortForm where
  /-- `container`, or `host:container`. -/
  | sides (published : Option PortText) (target : PortText)
  /-- `address:host:container`. -/
  | address (ip : AddressText) (published target : PortText)
  /-- `[address]:container`, or `[address]:host:container`. -/
  | bracketed (ip : AddressText) (published : Option PortText) (target : PortText)

/-- A port that is to be written. -/
structure WrittenPort where
  form : PortForm
  protocol : Option ProtocolText

namespace PortForm

/-- The side of the container. -/
def target : PortForm → PortText
  | sides _ target => target
  | address _ _ target => target
  | bracketed _ _ target => target

/-- The side of the host, if it is written. -/
def published : PortForm → Option PortText
  | sides published _ => published
  | address _ published _ => some published
  | bracketed _ published _ => published

/-- The address, if it is written. -/
def ip : PortForm → Option AddressText
  | sides _ _ => none
  | address ip _ _ => some ip
  | bracketed ip _ _ => some ip

/-- The two sides, with a colon between them. -/
def sideChars : Option PortText → PortText → List Char
  | none, target => target.chars
  | some published, target => published.chars ++ ':' :: target.chars

/-- The short form without its protocol. -/
def chars : PortForm → List Char
  | sides published target => sideChars published target
  | address ip published target => ip.chars ++ ':' :: sideChars (some published) target
  | bracketed ip published target =>
    '[' :: (ip.chars ++ ']' :: ':' :: sideChars published target)

/-- What a form means under a protocol, if its sides mean something: the address or every
interface, and the sides. -/
def binding? (form : PortForm) (protocol : String) : Option PortBinding := do
  let hostPort ←
    match form.published with
    | none => some none
    | some published => published.side?.map some
  let containerPort ← form.target.side?
  some
    { hostInterface := (form.ip.map (String.ofList ·.chars)).getD allInterfaces
      hostPort, containerPort, protocol }

end PortForm

namespace WrittenPort

/-- What the short form ends with: a slash and the protocol, if it is written. -/
def suffix : Option ProtocolText → List Char
  | none => []
  | some protocol => '/' :: protocol.chars

/-- The short form. -/
def short (port : WrittenPort) : String :=
  String.ofList (port.form.chars ++ suffix port.protocol)

/-- The fields of the long form: those that are written, each with its text. -/
def longEntries (target : String) (published ip protocol : Option String) :
    List (String × Tree) :=
  ("target", .text target) :: ((published.map fun s => ("published", Tree.text s)).toList ++
    (ip.map fun s => ("host_ip", Tree.text s)).toList ++
    (protocol.map fun s => ("protocol", Tree.text s)).toList)

/-- The long form. -/
def long (port : WrittenPort) : Tree :=
  .mapping <| longEntries (String.ofList port.form.target.chars)
    (port.form.published.map (String.ofList ·.chars)) (port.form.ip.map (String.ofList ·.chars))
    (port.protocol.map (String.ofList ·.chars))

/-- What a port means: its form read under its protocol, in small letters, or under the default
one. -/
def binding? (port : WrittenPort) : Option PortBinding :=
  port.form.binding? <|
    (port.protocol.map fun p => String.ofList (Text.lower p.chars)).getD "tcp"

end WrittenPort

/-! ## The short form -/

namespace PortForm

theorem solid_sideChars (published : Option PortText) (target : PortText) :
    Solid '/' (sideChars published target) := by
  have htarget : Solid '/' target.chars := target.solid (.inr rfl)
  cases published with
  | none => exact htarget
  | some published =>
    have hcolon : Solid '/' [':'] := solid_plain (by decide) (by decide)
    exact (published.solid (.inr rfl)).append (hcolon.append htarget)

/-- The colon between the sides is the only one that cuts. -/
theorem split_sideChars (published : Option PortText) (target : PortText) :
    split ':' (sideChars published target) =
      (published.map PortText.chars).toList ++ [target.chars] := by
  have htarget : Solid ':' target.chars := target.solid (.inl rfl)
  cases published with
  | none => exact split_of_uncut htarget.uncut
  | some published =>
    have hpublished : Solid ':' published.chars := published.solid (.inl rfl)
    rw [sideChars, split_append_sep separates_colon hpublished.balanced,
      split_of_uncut hpublished.uncut, split_of_uncut htarget.uncut]
    rfl

theorem ends_sideChars (published : Option PortText) (target : PortText) :
    sideChars published target ≠ [] ∧
      (∀ c ∈ (sideChars published target).head?, Text.isBlank c = false ∧ c ≠ '[') ∧
      ∀ c ∈ (sideChars published target).getLast?, Text.isBlank c = false := by
  cases published with
  | none => exact target.ends
  | some published =>
    refine ⟨by simp [sideChars], ?_, ?_⟩
    · rw [sideChars, List.head?_append_of_ne_nil _ published.ends.1]
      exact published.ends.2.1
    · rw [sideChars, List.getLast?_append_of_ne_nil _ (List.cons_ne_nil _ _),
        List.getLast?_cons_of_ne_nil target.ends.1]
      exact target.ends.2.2

/-- **No slash cuts the short form** before its protocol. -/
theorem solid (form : PortForm) : Solid '/' form.chars := by
  have hip : ∀ ip : AddressText, Solid '/' ip.chars := fun ip =>
    solid_plain (fun hmem => (ip.ordinary _ hmem).2.2.1 rfl) fun hmem =>
      (ip.ordinary _ hmem).2.1 rfl
  cases form with
  | sides published target => exact solid_sideChars published target
  | address ip published target =>
    have hcolon : Solid '/' [':'] := solid_plain (by decide) (by decide)
    exact (hip ip).append (hcolon.append (solid_sideChars (some published) target))
  | bracketed ip published target =>
    have hopen : Solid '/' ['['] := solid_plain (by decide) (by decide)
    have hclose : Solid '/' [']', ':'] := solid_plain (by decide) (by decide)
    exact hopen.append ((hip ip).append (hclose.append (solid_sideChars published target)))

/-- The short form neither begins nor ends with a blank. -/
theorem ends (form : PortForm) :
    form.chars ≠ [] ∧ (∀ c ∈ form.chars.head?, Text.isBlank c = false) ∧
      ∀ c ∈ form.chars.getLast?, Text.isBlank c = false := by
  cases form with
  | sides published target =>
    have h := ends_sideChars published target
    exact ⟨h.1, fun c hc => (h.2.1 c hc).1, h.2.2⟩
  | address ip published target =>
    have h := ends_sideChars (some published) target
    refine ⟨by simp [chars], fun c hc => ?_, ?_⟩
    · rw [chars, List.head?_append_of_ne_nil _ ip.ne_nil] at hc
      exact (ip.ordinary c (List.mem_of_mem_head? hc)).1
    · rw [chars, List.getLast?_append_of_ne_nil _ (List.cons_ne_nil _ _),
        List.getLast?_cons_of_ne_nil h.1]
      exact h.2.2
  | bracketed ip published target =>
    have h := ends_sideChars published target
    refine ⟨List.cons_ne_nil _ _, ?_, ?_⟩
    · rintro c ⟨rfl⟩
      decide
    · rw [chars, List.getLast?_cons_of_ne_nil (by simp),
        List.getLast?_append_of_ne_nil _ (List.cons_ne_nil _ _),
        List.getLast?_cons_of_ne_nil (List.cons_ne_nil _ _), List.getLast?_cons_of_ne_nil h.1]
      exact h.2.2

end PortForm

namespace PortBinding

/-- A text that does not begin with a bracket has no bracketed interface. -/
theorem splitBracketed?_of_ne {rest : List Char} (h : ∀ c ∈ rest.head?, c ≠ '[') :
    splitBracketed? rest = some (none, rest) := by
  cases rest with
  | nil => rfl
  | cons c rest =>
    rw [splitBracketed?]
    rintro inside ⟨⟩
    exact h _ rfl rfl

/-- An interface without a closing bracket is taken as it stands in the brackets. -/
theorem splitBracketed?_bracketed {address : List Char} (h : ']' ∉ address) (after : List Char) :
    splitBracketed? ('[' :: (address ++ ']' :: ':' :: after)) = some (some address, after) := by
  have hcut : Text.cutFirst? (· == ']') (address ++ ']' :: ':' :: after) =
      some (address, ':' :: after) := by
    induction address with
    | nil => rfl
    | cons c address ih =>
      rw [List.mem_cons, not_or] at h
      have hc : (c == ']') = false := beq_eq_false_iff_ne.mpr (Ne.symm h.1)
      simp [Text.cutFirst?, hc, ih h.2]
  rw [splitBracketed?, hcut]
  rfl

/-- The segments of the sides, under whatever interface stands in brackets. -/
theorem ofSegments?_sideChars (bracketed : Option (List Char)) (published : Option PortText)
    (target : PortText) (protocol : List Char) :
    ofSegments? bracketed (split ':' (PortForm.sideChars published target)) protocol =
      ofParts? (bracketed.getD []) ((published.map PortText.chars).getD []) target.chars
        protocol := by
  rw [PortForm.split_sideChars]
  cases published <;> rfl

/-- **An address without brackets is put together again**, however many colons cut it. -/
theorem ofSegments?_address {address : List Char} (h : Balanced address) (published : PortText)
    (target : PortText) (protocol : List Char) :
    ofSegments? none (split ':' (address ++ ':' :: PortForm.sideChars (some published) target))
      protocol = ofParts? address published.chars target.chars protocol := by
  -- The two sides are the last two segments, and all before them are joined by colons again.
  have hne : split ':' address ≠ [] := by simp [split, parts_eq_splitOnP]
  rw [split_append_sep separates_colon h, PortForm.split_sideChars, ofSegments?]
  simp only [Option.map_some, Option.toList_some, List.reverse_append, List.reverse_cons,
    List.reverse_nil, List.nil_append, List.cons_append]
  obtain ⟨last, others, hreverse⟩ :=
    List.exists_cons_of_ne_nil (List.reverse_ne_nil_iff.mpr hne)
  rw [hreverse]
  simp only [← hreverse, List.reverse_reverse, intercalate_split]

/-- Reading the short form without its protocol finds its parts. -/
theorem ofSegments?_form (form : PortForm) (protocol : List Char) :
    ((splitBracketed? form.chars).bind fun (bracketed, rest) =>
      ofSegments? bracketed (split ':' rest) protocol) =
        ofParts? ((form.ip.map (·.chars)).getD []) ((form.published.map (·.chars)).getD [])
          form.target.chars protocol := by
  cases form with
  | sides published target =>
    have hhead : ∀ c ∈ (PortForm.sideChars published target).head?, c ≠ '[' := fun c hc =>
      ((PortForm.ends_sideChars published target).2.1 c hc).2
    rw [PortForm.chars, splitBracketed?_of_ne hhead]
    exact ofSegments?_sideChars none published target protocol
  | address ip published target =>
    have hhead : ∀ c ∈ (ip.chars ++ ':' :: PortForm.sideChars (some published) target).head?,
        c ≠ '[' := by
      rw [List.head?_append_of_ne_nil _ ip.ne_nil]
      exact fun c hc => (ip.ordinary c (List.mem_of_mem_head? hc)).2.2.2.1
    have hdollar : '$' ∉ ip.chars := fun hmem => (ip.ordinary _ hmem).2.2.1 rfl
    rw [PortForm.chars, splitBracketed?_of_ne hhead]
    exact ofSegments?_address (balanced_plain hdollar) published target protocol
  | bracketed ip published target =>
    have hbracket : ']' ∉ ip.chars := fun hmem => (ip.ordinary _ hmem).2.2.2.2 rfl
    rw [PortForm.chars, splitBracketed?_bracketed hbracket]
    exact ofSegments?_sideChars (some ip.chars) published target protocol

/-- The last slash stands before the protocol. -/
theorem splitProtocol_form (form : PortForm) (protocol : Option ProtocolText) :
    splitProtocol (form.chars ++ WrittenPort.suffix protocol) =
      (form.chars, ((protocol.map fun p => Text.lower p.chars)).getD defaultProtocol.toList) := by
  have hform : Solid '/' form.chars := form.solid
  cases protocol with
  | none =>
    rw [WrittenPort.suffix, List.append_nil, splitProtocol, cutLast?_of_uncut hform.uncut]
    rfl
  | some protocol =>
    have hprotocol : Uncut '/' protocol.chars :=
      uncut_plain (fun hmem => (protocol.ordinary _ hmem).2.2 rfl)
        fun hmem => (protocol.ordinary _ hmem).2.1 rfl
    rw [WrittenPort.suffix, splitProtocol,
      cutLast?_append_sep separates_slash hform.balanced hprotocol]
    rfl

/-- A binding is put together from what the parts mean. -/
theorem ofParts?_form (form : PortForm) (protocol : List Char) :
    ofParts? ((form.ip.map (·.chars)).getD []) ((form.published.map (·.chars)).getD [])
      form.target.chars protocol = form.binding? (String.ofList protocol) := by
  have hinterface : (if ((form.ip.map (·.chars)).getD []).isEmpty then allInterfaces
      else String.ofList ((form.ip.map (·.chars)).getD [])) =
        (form.ip.map (String.ofList ·.chars)).getD allInterfaces := by
    cases form.ip with
    | none => rfl
    | some ip =>
      have hne : ip.chars.isEmpty = false := by simpa using ip.ne_nil
      simp [hne]
  rw [ofParts?, PortForm.binding?, hinterface, PortSide.parse?_chars]
  cases form.published with
  | none => rfl
  | some published =>
    have hne : published.chars.isEmpty = false := by simpa using published.ends.1
    simp only [Option.map_some, Option.getD_some, hne, PortSide.parse?_chars]
    rfl

/-- **Reading the short form gives what the port means.** -/
theorem parse?_short (port : WrittenPort) : parse? port.short = port.binding? := by
  have hends := port.form.ends
  have htrim : Text.trim (port.form.chars ++ WrittenPort.suffix port.protocol) =
      port.form.chars ++ WrittenPort.suffix port.protocol := by
    refine Text.trim_eq_self ?_ ?_
    · rw [List.head?_append_of_ne_nil _ hends.1]
      exact hends.2.1
    -- At the end stands the protocol, or the slash before an empty one.
    · cases port.protocol with
      | none => simpa [WrittenPort.suffix] using hends.2.2
      | some protocol =>
        rw [WrittenPort.suffix, List.getLast?_append_of_ne_nil _ (List.cons_ne_nil _ _)]
        intro c hc
        rcases List.mem_cons.mp (List.mem_of_mem_getLast? hc) with rfl | hmem
        · decide
        · exact (protocol.ordinary c hmem).1
  rw [parse?, WrittenPort.short, String.toList_ofList, htrim, splitProtocol_form]
  refine (ofSegments?_form port.form _).trans ?_
  rw [ofParts?_form, WrittenPort.binding?]
  cases port.protocol <;> rfl

end PortBinding

/-! ## The long form -/

namespace WrittenPort

open List in
/-- The fields of the long form have distinct names, all of them read, and none is a position. -/
theorem longEntries_keys (target : String) (published ip protocol : Option String) :
    ((longEntries target published ip protocol).map Prod.fst).Nodup ∧
      (∀ entry ∈ longEntries target published ip protocol, position? entry.1 = none) ∧
      ∀ entry ∈ longEntries target published ip protocol, ∃ s, entry.2 = .text s := by
  have hkeys : ((longEntries target published ip protocol).map Prod.fst).Sublist
      ["target", "published", "host_ip", "protocol"] := by
    cases published <;> cases ip <;> cases protocol <;> simp [longEntries]
  have hposition : ∀ key ∈ ["target", "published", "host_ip", "protocol"],
      position? key = none := by decide
  refine ⟨hkeys.nodup (by decide), fun entry hentry => ?_, fun entry hentry => ?_⟩
  · exact hposition entry.1 (hkeys.subset (mem_map_of_mem hentry))
  · simp only [longEntries, mem_cons, mem_append, Option.mem_toList, Option.map_eq_some_iff]
      at hentry
    rcases hentry with rfl | ((⟨s, -, rfl⟩ | ⟨s, -, rfl⟩) | ⟨s, -, rfl⟩)
    all_goals exact ⟨_, rfl⟩

/-- A field of the long form holds what is written of it. -/
theorem lookup_longEntries (target : String) (published ip protocol : Option String) :
    (longEntries target published ip protocol).lookup "target" = some (.text target) ∧
      (longEntries target published ip protocol).lookup "published" = published.map .text ∧
      (longEntries target published ip protocol).lookup "host_ip" = ip.map .text ∧
      (longEntries target published ip protocol).lookup "protocol" = protocol.map .text ∧
      (longEntries target published ip protocol).lookup "mode" = none := by
  cases published <;> cases ip <;> cases protocol <;> simp [longEntries, List.lookup_cons]

end WrittenPort

namespace Manifest

/-- What is shown of the long form is what is written. -/
theorem shownEntries_longEntries (target : String) (published ip protocol : Option String) :
    shownEntries (WrittenPort.longEntries target published ip protocol) =
      WrittenPort.longEntries target published ip protocol := by
  cases published <;> cases ip <;> cases protocol <;>
    simp [WrittenPort.longEntries, shownEntries, portKeys, List.lookup_cons]

/-- **The long form has the shape of a port**, and each of its fields is found. -/
theorem port_longEntries (target : String) (published ip protocol : Option String) :
    port (some (.mapping (WrittenPort.longEntries target published ip protocol))) =
      .valid (.long ⟨target, published, ip, protocol,
        WrittenPort.longEntries target published ip protocol⟩) := by
  obtain ⟨hnodup, hposition, -⟩ := WrittenPort.longEntries_keys target published ip protocol
  have hentries : (Tree.mapping (WrittenPort.longEntries target published ip protocol)).entries? =
      some (WrittenPort.longEntries target published ip protocol) := by
    rw [Tree.entries?_mapping, readingOrder_eq_self hnodup hposition]
  obtain ⟨htarget, hpublished, hip, hprotocol, hmode⟩ :=
    WrittenPort.lookup_longEntries target published ip protocol
  have htext : ∀ s : Option String, Check.nullish Check.text (s.map .text) = .valid s := by
    rintro (_ | s) <;> rfl
  have hside : ∀ s : Option String, Check.nullish portSide (s.map .text) = .valid s := by
    rintro (_ | s) <;> rfl
  simp only [port, Check.either, List.map_cons, List.map_nil, Check.object, hentries, Check.field,
    htarget, hpublished, hip, hprotocol, hmode, htext, hside, shownEntries_longEntries]
  rfl

/-- There is no circle in a mapping of texts. -/
theorem circle?_texts {entries : List (String × Tree)} (hnodup : (entries.map Prod.fst).Nodup)
    (h : ∀ entry ∈ entries, ∃ s, entry.2 = .text s) : (Tree.mapping entries).circle? = none := by
  rw [Tree.circle?, Tree.circleFrom?_mapping_eq_none_iff hnodup]
  intro entry hentry
  obtain ⟨s, hs⟩ := h entry hentry
  rw [hs]
  rfl

end Manifest

/-- The fields of the long form are the parts of the port. -/
theorem PortBinding.ofLong?_written (port : WrittenPort) (entries : List (String × Tree)) :
    ofLong? ⟨String.ofList port.form.target.chars,
      port.form.published.map (String.ofList ·.chars), port.form.ip.map (String.ofList ·.chars),
      port.protocol.map (String.ofList ·.chars), entries⟩ = port.binding? := by
  have hip : ((port.form.ip.map (String.ofList ·.chars)).getD "").toList =
      (port.form.ip.map (·.chars)).getD [] := by
    cases port.form.ip <;> simp
  have hpublished : ((port.form.published.map (String.ofList ·.chars)).getD "").toList =
      (port.form.published.map (·.chars)).getD [] := by
    cases port.form.published <;> simp
  have hdefault : String.ofList (Text.lower defaultProtocol.toList) = "tcp" := by decide
  rw [ofLong?, hip, hpublished, String.toList_ofList, ofParts?_form, WrittenPort.binding?]
  cases port.protocol with
  | none => rw [Option.map_none, Option.getD_none, hdefault]; rfl
  | some protocol => simp

/-- Reads one port of a service, in either form. -/
def readPort (service : String) (tree : Tree) : Option PortBinding :=
  match Manifest.port (some tree) with
  | .valid shape => (Manifest.binding service shape).toOption
  | _ => none

theorem readPort_text (service written : String) :
    readPort service (.text written) = PortBinding.parse? written := by
  have hshape : Manifest.port (some (.text written)) = .valid (.short written) := rfl
  rw [readPort, hshape]
  simp only [Manifest.binding]
  cases PortBinding.parse? written <;> rfl

/-- **Reading the long form gives what the port means.** -/
theorem readPort_long (service : String) (port : WrittenPort) :
    readPort service port.long = port.binding? := by
  obtain ⟨hnodup, -, htexts⟩ := WrittenPort.longEntries_keys
    (String.ofList port.form.target.chars) (port.form.published.map (String.ofList ·.chars))
    (port.form.ip.map (String.ofList ·.chars)) (port.protocol.map (String.ofList ·.chars))
  rw [readPort, WrittenPort.long, Manifest.port_longEntries]
  simp only [Manifest.binding, Manifest.circle?_texts hnodup htexts]
  rw [PortBinding.ofLong?_written]
  cases port.binding? <;> rfl

/-- **The two ways of writing a port agree.** Whatever port is written, both forms are refused or
both are read as the same binding, and this is the one that the parts of the port mean. -/
theorem readPort_short_eq_long (service : String) (port : WrittenPort) :
    readPort service (.text port.short) = readPort service port.long ∧
      readPort service port.long = port.binding? := by
  rw [readPort_text, PortBinding.parse?_short, readPort_long]
  exact ⟨rfl, rfl⟩

example : WrittenPort.short
    ⟨.address ⟨"fe80::1".toList, by decide, by simp [Text.isBlank]⟩
      (.range ⟨"8000".toList, by decide, by simp⟩ ⟨"8001".toList, by decide, by simp⟩)
      (.port ⟨"80".toList, by decide, by simp⟩), some ⟨"udp".toList, by simp [Text.isBlank]⟩⟩ =
    "fe80::1:8000-8001:80/udp" := by
  decide

end ComposeLint
