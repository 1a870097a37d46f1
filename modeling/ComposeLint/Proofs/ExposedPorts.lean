import ComposeLint.Proofs.ServiceItems
import ComposeLint.Proofs.ShortPort

/-!
# Exposed ports as they are written

What the rule on exposed ports finds in a service follows from what is written of its ports, entry
by entry: from the interface that an entry names and from the ports that its sides cover
(`PortEntry.Exposes`). A side covers ports only if numbers stand there; one that refers to a
variable covers none. So an entry that covers more is not reported less (`PortEntry.Exposes.mono`).
-/

namespace ComposeLint

open Substitution

/-! ## What is written -/

/-- Whether a text is a number or a range, with blanks around it, and covers a port. -/
def PortSide.Covers (text : List Char) (port : Nat) : Prop :=
  ∃ (side : PortText) (range : PortRange), side.chars = Text.trim text ∧
    side.side? = some (.literal range) ∧ range.first ≤ port ∧ port ≤ range.last

/-- What is written of a port in either form. -/
inductive PortShape.Writes : PortShape → PortEntry → Prop
  | short {written : String} {rest : List Char} {protocol : Option (List Char)}
      {entry : PortEntry} : PortBinding.HasProtocol (Text.trim written.toList) rest protocol →
        PortBinding.HasParts rest entry → Writes (.short written) entry
  | long (port : LongPort) : Writes (.long port)
      ⟨port.hostInterface.map String.toList, port.published.map String.toList, port.target.toList⟩

/-- What is found about one port: the text of the port if it is reachable on every interface, and a
sensitive port if there is one. -/
structure Exposure where
  everywhere : Option String
  sensitive : Option Nat

/-- The hits on one port, the one about its interface first. -/
def Exposure.hits (service : Service) (exposure : Exposure) : List Hit :=
  (exposure.everywhere.map fun text =>
      ⟨.medium, Rule.about service ("exposes port " ++ text ++ " to all interfaces")⟩).toList ++
    (exposure.sensitive.map fun port =>
      ⟨.medium, Rule.about service ("exposes sensitive port " ++ toString port)⟩).toList

namespace PortEntry

variable {entry wider : PortEntry} {sensitive : List Nat} {exposure other : Exposure} {port : Nat}

/-- Whether one of the two sides covers a port. -/
def Covers (entry : PortEntry) (port : Nat) : Prop :=
  PortSide.Covers entry.container port ∨ ∃ host ∈ entry.host, PortSide.Covers host port

/-- What is found about a port that is written: that it is reachable on every interface if it names
none, an empty one or one that stands for all, and a sensitive port that it covers, which is one of
the container if the container has one. -/
structure Exposes (entry : PortEntry) (sensitive : List Nat) (exposure : Exposure) : Prop where
  everywhere_iff : exposure.everywhere.isSome = true ↔
    entry.interface ∈ [none, some [], some "0.0.0.0".toList, some "::".toList]
  sensitive_iff : exposure.sensitive.isSome = true ↔ ∃ port ∈ sensitive, entry.Covers port
  mem : ∀ port ∈ exposure.sensitive, port ∈ sensitive ∧ entry.Covers port
  container : ∀ port ∈ exposure.sensitive,
    (∃ other ∈ sensitive, PortSide.Covers entry.container other) →
      PortSide.Covers entry.container port

/-- Whether another entry covers all that an entry does. -/
def Widens (entry wider : PortEntry) : Prop := ∀ port, entry.Covers port → wider.Covers port

end PortEntry

/-! ## Sensitive ports of a side -/

namespace PortSide

variable {text : List Char} {sensitive : List Nat} {port : Nat}

/-- What a side covers is the range that is read of it. -/
theorem covers_iff : Covers text port ↔
    ∃ range, parse? text = some (.literal range) ∧ range.first ≤ port ∧ port ≤ range.last := by
  constructor
  · rintro ⟨side, range, hchars, hside, hport⟩
    exact ⟨range, parse?_eq_literal_iff.mpr ⟨side, hchars, hside⟩, hport⟩
  · rintro ⟨range, hread, hport⟩
    obtain ⟨side, hchars, hside⟩ := parse?_eq_literal_iff.mp hread
    exact ⟨side, range, hchars, hside, hport⟩

/-- The sensitive port that is found in a side is one that the side covers. -/
theorem covers_of_sensitivePort?
    (h : (parse? text).bind (Rule.sensitivePort? sensitive) = some port) :
    port ∈ sensitive ∧ Covers text port := by
  obtain ⟨side, hread, hport⟩ := Option.bind_eq_some_iff.mp h
  cases side with
  | literal range =>
    have hrange := List.find?_some hport
    simp only [Bool.and_eq_true, decide_eq_true_eq] at hrange
    exact ⟨List.mem_of_find?_eq_some hport, covers_iff.mpr ⟨range, hread, hrange⟩⟩
  | unresolved expression => cases hport

/-- **A sensitive port is found** exactly when a side covers one. -/
theorem isSome_sensitivePort?_iff :
    ((parse? text).bind (Rule.sensitivePort? sensitive)).isSome = true ↔
      ∃ port ∈ sensitive, Covers text port := by
  constructor
  · intro h
    obtain ⟨port, hport⟩ := Option.isSome_iff_exists.mp h
    obtain ⟨hmem, hcovers⟩ := covers_of_sensitivePort? hport
    exact ⟨port, hmem, hcovers⟩
  · rintro ⟨port, hmem, hcovers⟩
    obtain ⟨range, hread, hfirst, hlast⟩ := covers_iff.mp hcovers
    rw [hread, Option.bind_some, Rule.sensitivePort?, List.find?_isSome]
    exact ⟨port, hmem, by simp [hfirst, hlast]⟩

/-- Nothing covers no port. -/
theorem not_covers_nil : ¬ Covers [] port := by
  rintro ⟨side, -, hchars, -⟩
  exact side.ends.1 hchars

end PortSide

/-! ## What is found about a port -/

/-- What is found about a binding. -/
def PortBinding.exposure (tables : RuleTables) (binding : PortBinding) : Exposure where
  everywhere :=
    if tables.allInterfaceAddresses.contains binding.hostInterface then some binding.text else none
  sensitive := (Rule.sensitivePort? tables.sensitivePorts binding.containerPort).or
    (binding.hostPort.bind (Rule.sensitivePort? tables.sensitivePorts))

/-- The hits on a binding say what is found about it. -/
theorem Rule.bindingHits_eq (service : Service) (tables : RuleTables) (binding : PortBinding) :
    bindingHits service tables binding = (binding.exposure tables).hits service := by
  simp only [bindingHits, PortBinding.exposure, Exposure.hits]
  congr 1
  · rw [hitIf]
    split <;> rfl
  · generalize (sensitivePort? tables.sensitivePorts binding.containerPort).or _ = sensitive
    cases sensitive <;> rfl

namespace PortEntry

variable {entry wider : PortEntry} {tables : RuleTables} {binding : PortBinding}
  {protocol : List Char} {sensitive : List Nat} {exposure other : Exposure} {port : Nat}

theorem covers_getD_host :
    PortSide.Covers (entry.host.getD []) port ↔
      ∃ host ∈ entry.host, PortSide.Covers host port := by
  cases entry.host with
  | none => simp [PortSide.not_covers_nil]
  | some host => simp

/-- An interface stands for all if none is named, or an empty one, or one of the table. -/
theorem mem_allInterfaceAddresses_iff (interface : Option (List Char)) :
    (if (interface.getD []).isEmpty then allInterfaces else String.ofList (interface.getD [])) ∈
        RuleTables.standard.allInterfaceAddresses ↔
      interface ∈ [none, some [], some "0.0.0.0".toList, some "::".toList] := by
  have hchars : ∀ (cs : List Char) (s : String), String.ofList cs = s ↔ cs = s.toList :=
    fun cs s => by rw [← String.toList_inj, String.toList_ofList]
  rcases interface with _ | _ | ⟨c, cs⟩
  · simp [RuleTables.standard]
  · simp [RuleTables.standard]
  · simp only [Option.getD_some, List.isEmpty_cons, Bool.false_eq_true, if_false,
      RuleTables.standard, allInterfaces, List.mem_cons, List.not_mem_nil, hchars, or_false,
      Option.some.injEq, reduceCtorEq, false_or]

/-- **What is found about a binding follows from what is written.** -/
theorem exposes_of_binding?
    (htables : tables.allInterfaceAddresses = RuleTables.standard.allInterfaceAddresses)
    (h : entry.binding? protocol = some binding) :
    entry.Exposes tables.sensitivePorts (binding.exposure tables) := by
  obtain ⟨hinterface, ⟨hhost, -⟩, hcontainer, -⟩ := PortBinding.eq_of_ofParts? h
  -- The side of the container comes first.
  have hsensitive : (binding.exposure tables).sensitive =
      ((PortSide.parse? entry.container).bind (Rule.sensitivePort? tables.sensitivePorts)).or
        ((PortSide.parse? (entry.host.getD [])).bind
          (Rule.sensitivePort? tables.sensitivePorts)) := by
    rw [PortBinding.exposure, hcontainer, hhost]
    rfl
  have hmem : ∀ port ∈ (binding.exposure tables).sensitive,
      port ∈ tables.sensitivePorts ∧ entry.Covers port := by
    intro port hport
    rw [hsensitive] at hport
    rcases Option.or_eq_some_iff.mp hport with hport | ⟨-, hport⟩
    · exact (PortSide.covers_of_sensitivePort? hport).imp_right .inl
    · exact (PortSide.covers_of_sensitivePort? hport).imp_right fun h =>
        .inr (covers_getD_host.mp h)
  constructor
  · have hsome : (binding.exposure tables).everywhere.isSome = true ↔
        binding.hostInterface ∈ tables.allInterfaceAddresses := by
      rw [PortBinding.exposure]
      split <;> simp_all
    rw [hsome, hinterface, htables]
    exact mem_allInterfaceAddresses_iff entry.interface
  · rw [hsensitive, Option.isSome_or, Bool.or_eq_true, PortSide.isSome_sensitivePort?_iff,
      PortSide.isSome_sensitivePort?_iff, ← exists_or]
    simp only [covers_getD_host, Covers, and_or_left]
  · exact hmem
  · intro port hport hcovered
    rw [hsensitive] at hport
    rcases Option.or_eq_some_iff.mp hport with hport | ⟨hnone, -⟩
    · exact (PortSide.covers_of_sensitivePort? hport).2
    · rw [← PortSide.isSome_sensitivePort?_iff, hnone] at hcovered
      cases hcovered

/-- What is written of a binding covers the ranges of its literal sides. -/
theorem covers_iff_of_binding? (h : entry.binding? protocol = some binding) :
    entry.Covers port ↔ ∃ range, (binding.containerPort = .literal range ∨
      binding.hostPort = some (.literal range)) ∧ range.first ≤ port ∧ port ≤ range.last := by
  obtain ⟨-, ⟨hhost, -⟩, hcontainer, -⟩ := PortBinding.eq_of_ofParts? h
  rw [Covers, ← covers_getD_host, PortSide.covers_iff, PortSide.covers_iff, hhost, hcontainer,
    ← exists_or]
  simp only [Option.some.injEq, or_and_right]

/-- **What covers more is not found less.** -/
theorem Exposes.mono (hexposed : entry.Exposes sensitive exposure)
    (hother : wider.Exposes sensitive other) (hwidens : entry.Widens wider)
    (h : exposure.sensitive.isSome = true) : other.sensitive.isSome = true := by
  obtain ⟨port, hport, hcovers⟩ := hexposed.sensitive_iff.mp h
  exact hother.sensitive_iff.mpr ⟨port, hport, hwidens port hcovers⟩

end PortEntry

/-! ## What is found in a service -/

namespace PortShape

variable {shape wider : PortShape} {name : String} {binding : PortBinding} {entry : PortEntry}
  {tables : RuleTables} {sensitive : List Nat} {exposure other : Exposure}

/-- **What is written is read**, in either form. -/
theorem Writes.exists_binding? (hwrites : shape.Writes entry)
    (h : Manifest.binding name shape = .ok binding) :
    ∃ protocol, entry.binding? protocol = some binding := by
  cases hwrites with
  | short hprotocol hparts =>
    exact ⟨_, (PortBinding.parse?_of_hasParts hprotocol hparts).symm.trans
      (Manifest.orFault_eq_ok_iff.mp h)⟩
  | long port =>
    have htext : ∀ s : Option String, (s.map String.toList).getD [] = (s.getD "").toList := by
      rintro (_ | s) <;> rfl
    simp only [Manifest.binding] at h
    split at h
    · cases h
    · refine ⟨Text.lower (port.protocol.getD PortBinding.defaultProtocol).toList, ?_⟩
      rw [PortEntry.binding?, htext, htext]
      exact Manifest.orFault_eq_ok_iff.mp h

/-- What is accepted is written somehow. -/
theorem exists_writes (h : Manifest.binding name shape = .ok binding) :
    ∃ entry, shape.Writes entry := by
  cases shape with
  | short written =>
    obtain ⟨rest, protocol, entry, hprotocol, hparts, -⟩ :=
      PortBinding.parse?_eq_some_iff.mp (Manifest.orFault_eq_ok_iff.mp h)
    exact ⟨entry, .short hprotocol hparts⟩
  | long port => exact ⟨_, .long port⟩

/-- What is found about a port, whatever is taken to be written of it. -/
def Exposes (shape : PortShape) (sensitive : List Nat) (exposure : Exposure) : Prop :=
  (∃ entry, shape.Writes entry) ∧
    ∀ entry, shape.Writes entry → entry.Exposes sensitive exposure

theorem exposes_of_binding
    (htables : tables.allInterfaceAddresses = RuleTables.standard.allInterfaceAddresses)
    (h : Manifest.binding name shape = .ok binding) :
    shape.Exposes tables.sensitivePorts (binding.exposure tables) := by
  refine ⟨exists_writes h, fun entry hwrites => ?_⟩
  obtain ⟨protocol, hbinding⟩ := hwrites.exists_binding? h
  exact PortEntry.exposes_of_binding? htables hbinding

/-- Whether a port is written so that it covers all that another does. -/
def Widens (shape wider : PortShape) : Prop :=
  ∃ entry other, shape.Writes entry ∧ wider.Writes other ∧ entry.Widens other

/-- It is, if the ports of its binding do. -/
theorem widens_of_binding {more : PortBinding} (h : Manifest.binding name shape = .ok binding)
    (hmore : Manifest.binding name wider = .ok more)
    (hcovers : ∀ range, binding.containerPort = .literal range ∨
        binding.hostPort = some (.literal range) →
      ∃ wide, (more.containerPort = .literal wide ∨ more.hostPort = some (.literal wide)) ∧
        wide.first ≤ range.first ∧ range.last ≤ wide.last) : shape.Widens wider := by
  obtain ⟨entry, hentry⟩ := exists_writes h
  obtain ⟨other, hother⟩ := exists_writes hmore
  refine ⟨entry, other, hentry, hother, fun port hport => ?_⟩
  obtain ⟨_, hbinding⟩ := hentry.exists_binding? h
  obtain ⟨_, hwide⟩ := hother.exists_binding? hmore
  obtain ⟨range, hrange, hfirst, hlast⟩ := (PortEntry.covers_iff_of_binding? hbinding).mp hport
  obtain ⟨wide, hside, hle, hge⟩ := hcovers range hrange
  exact (PortEntry.covers_iff_of_binding? hwide).mpr
    ⟨wide, hside, hle.trans hfirst, hlast.trans hge⟩

theorem Exposes.mono (hexposed : shape.Exposes sensitive exposure)
    (hother : wider.Exposes sensitive other) (hwidens : shape.Widens wider)
    (h : exposure.sensitive.isSome = true) : other.sensitive.isSome = true := by
  obtain ⟨entry, others, hentry, hothers, hcovers⟩ := hwidens
  exact (hexposed.2 entry hentry).mono (hother.2 others hothers) hcovers h

end PortShape

namespace Rule

variable {context : RuleContext}

/-- What the rule on exposed ports finds in a service, port by port in the order of the list. A port
is shown as it is rendered. -/
structure FindsExposed (context : RuleContext) (tree : Tree) (service : Service)
    (shapes : List PortShape) (exposures : List Exposure) : Prop where
  listed : Manifest.Lists Manifest.port "ports" tree shapes
  exposed : List.Forall₂ (fun shape exposure =>
    shape.Exposes context.tables.sensitivePorts exposure) shapes exposures
  shown : List.Forall₂ (fun shape (exposure : Exposure) => ∀ text ∈ exposure.everywhere,
    ∃ binding, Manifest.binding service.name shape = .ok binding ∧ text = binding.text)
      shapes exposures
  hits : exposedPorts.hits? context service = some (exposures.flatMap (Exposure.hits service))

theorem findsExposed_of_bindings {tree : Tree} {service : Service} {shapes : List PortShape}
    (htables : context.tables.allInterfaceAddresses = RuleTables.standard.allInterfaceAddresses)
    (hlisted : Manifest.Lists Manifest.port "ports" tree shapes)
    (hbindings : List.Forall₂ (fun shape read => Manifest.binding service.name shape = .ok read)
      shapes service.ports) :
    FindsExposed context tree service shapes
      (service.ports.map (PortBinding.exposure context.tables)) where
  listed := hlisted
  exposed := by
    rw [List.forall₂_map_right_iff]
    exact hbindings.imp fun _ _ h => PortShape.exposes_of_binding htables h
  shown := by
    rw [List.forall₂_map_right_iff]
    refine hbindings.imp fun _ binding h text htext => ⟨binding, h, ?_⟩
    rw [PortBinding.exposure] at htext
    split at htext
    · exact (Option.some.inj htext).symm
    · cases htext
  hits := by
    have hrule : exposedPorts.hits? context service =
        some (service.ports.flatMap (bindingHits service context.tables)) := rfl
    rw [hrule, List.flatMap_map]
    exact congrArg some (List.flatMap_congr fun binding _ => bindingHits_eq _ _ binding)

/-- **Exposed ports are found as they are written.** The hits of a service are, port by port, one
about the interface if every interface of the host is meant, and then one about a sensitive port if
a side covers one; and they name a port of the container if they can. So ports that cover more lose
no hit about a sensitive port. -/
theorem findsExposed_of_readsAs
    (htables : context.tables.allInterfaceAddresses = RuleTables.standard.allInterfaceAddresses) :
    (∀ {name : String} {tree : Tree} {service : Service}, Manifest.ReadsAs name tree service →
      ∃ shapes exposures, FindsExposed context tree service shapes exposures) ∧
    ∀ {document : Document} {tree tree' : Tree} {service service' : Service}
      {shapes wider : List PortShape} {exposures others : List Exposure},
      FindsExposed context tree service shapes exposures →
        FindsExposed ⟨document, context.tables⟩ tree' service' wider others →
          List.Forall₂ PortShape.Widens shapes wider →
            List.Forall₂ (fun exposure other : Exposure =>
              exposure.sensitive.isSome = true → other.sensitive.isSome = true)
                exposures others := by
  constructor
  · intro name tree service hread
    obtain ⟨shapes, hlisted, hbindings, rfl⟩ := Manifest.ports_of_readsAs hread
    exact ⟨shapes, _, findsExposed_of_bindings htables hlisted hbindings⟩
  · intro document tree tree' service service' shapes wider exposures others hfinds hothers hwidens
    exact forall₂_found hwidens hfinds.exposed hothers.exposed fun h hshape hwider =>
      hshape.mono hwider h

/-- A service that publishes ports, as a tree. -/
def publishing (ports : List Tree) : Tree := .mapping [("ports", .list ports)]

/-- A service that publishes ports. -/
def publisher (ports : List PortBinding) : Service := { name := "web", ports }

/-- Ports in both forms, with a range, a variable and an empty interface. -/
def mixedPorts : Tree :=
  publishing [.text "[::]:22:5000-6000", .text "127.0.0.1:$\x7bP\x7d:80",
    .mapping [("target", .text "22"), ("host_ip", .text "")]]

/-- The bindings that they are read as. -/
def mixedBindings : Service :=
  publisher [⟨"::", some (.literal ⟨22, 22⟩), .literal ⟨5000, 6000⟩, "tcp"⟩,
    ⟨"127.0.0.1", some (.unresolved "$\x7bP\x7d"), .literal ⟨80, 80⟩, "tcp"⟩,
    ⟨"0.0.0.0", none, .literal ⟨22, 22⟩, "tcp"⟩]

/-- Tables with sensitive ports of their own. -/
def sensitiveContext : RuleContext where
  document := .empty "compose.yml"
  tables := { RuleTables.standard with sensitivePorts := [5432, 22] }

/-- Two of the ports are found, and a port on the host is still found in a range around it. -/
theorem findsExposed_publishing :
    sensitiveContext.tables.allInterfaceAddresses = RuleTables.standard.allInterfaceAddresses ∧
    (∃ shapes exposures,
      FindsExposed sensitiveContext mixedPorts mixedBindings shapes exposures) ∧
    exposedPorts.hits? sensitiveContext mixedBindings =
      some [⟨.medium, "Service 'web' exposes port 22:5000-6000 to all interfaces"⟩,
        ⟨.medium, "Service 'web' exposes sensitive port 5432"⟩,
        ⟨.medium, "Service 'web' exposes port 22 to all interfaces"⟩,
        ⟨.medium, "Service 'web' exposes sensitive port 22"⟩] ∧
    ∃ exposures others,
      FindsExposed sensitiveContext (publishing [.text "5432:80"])
        (publisher [⟨"0.0.0.0", some (.literal ⟨5432, 5432⟩), .literal ⟨80, 80⟩, "tcp"⟩])
        [.short "5432:80"] exposures ∧
      FindsExposed sensitiveContext (publishing [.text "5000-6000:80"])
        (publisher [⟨"0.0.0.0", some (.literal ⟨5000, 6000⟩), .literal ⟨80, 80⟩, "tcp"⟩])
        [.short "5000-6000:80"] others ∧
      List.Forall₂ (fun exposure other : Exposure =>
        exposure.sensitive.isSome = true → other.sensitive.isSome = true) exposures others := by
  have htables : sensitiveContext.tables.allInterfaceAddresses =
      RuleTables.standard.allInterfaceAddresses := rfl
  obtain ⟨hfinds, hmore⟩ := findsExposed_of_readsAs htables
  have hnarrow : Manifest.binding "web" (.short "5432:80") =
      .ok ⟨"0.0.0.0", some (.literal ⟨5432, 5432⟩), .literal ⟨80, 80⟩, "tcp"⟩ := rfl
  have hwide : Manifest.binding "web" (.short "5000-6000:80") =
      .ok ⟨"0.0.0.0", some (.literal ⟨5000, 6000⟩), .literal ⟨80, 80⟩, "tcp"⟩ := rfl
  have hone : FindsExposed sensitiveContext (publishing [.text "5432:80"])
      (publisher [⟨"0.0.0.0", some (.literal ⟨5432, 5432⟩), .literal ⟨80, 80⟩, "tcp"⟩])
      [.short "5432:80"] _ :=
    findsExposed_of_bindings htables ⟨_, _, rfl, rfl, rfl⟩ (.cons hnarrow .nil)
  have hother : FindsExposed sensitiveContext (publishing [.text "5000-6000:80"])
      (publisher [⟨"0.0.0.0", some (.literal ⟨5000, 6000⟩), .literal ⟨80, 80⟩, "tcp"⟩])
      [.short "5000-6000:80"] _ :=
    findsExposed_of_bindings htables ⟨_, _, rfl, rfl, rfl⟩ (.cons hwide .nil)
  have hwidens : PortShape.Widens (.short "5432:80") (.short "5000-6000:80") := by
    refine PortShape.widens_of_binding hnarrow hwide ?_
    rintro range (hcontainer | hhost)
    · cases hcontainer
      exact ⟨⟨80, 80⟩, .inl rfl, by decide, by decide⟩
    · cases hhost
      exact ⟨⟨5000, 6000⟩, .inr rfl, by decide, by decide⟩
  have hread : Manifest.ReadsAs "web" mixedPorts mixedBindings := ⟨_, rfl, rfl⟩
  exact ⟨htables, hfinds hread, by decide +kernel, _, _, hone, hother,
    hmore hone hother (.cons hwidens .nil)⟩

end Rule

end ComposeLint
