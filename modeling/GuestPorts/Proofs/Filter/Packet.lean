/-
  GuestPorts/Proofs/Filter/Packet.lean
  ====================================
  **What the arguments of a rule say about packets.**

  The filter program is no part of this library.  Its manual says what the arguments of a
  rule mean, and that is said here: options and values alternate, a rule matches a packet
  when every criterion that it gives holds, and the first rule of a chain that matches
  decides.  Arguments that the manual does not allow have no reading, so a theorem that gives
  the reading of a rule says as well that the rule is accepted.

  One thing is left open, as `takes`: the names of interfaces that a word behind `-o` stands
  for.  By the manual a word that ends in a plus sign stands for all names that it begins,
  and any other word for itself; the theorems hold for this as for plain equality.
-/
import GuestPorts.Port.Spec
import GuestPorts.Proofs.Address
import GuestPorts.Proofs.Filter.Kernel
import GuestPorts.Proofs.Port.Form
import GuestPorts.Declaration

namespace GuestPorts

/-! ### Packets and rules -/

structure Packet where
  /-- The number of the transport protocol. -/
  protocol : UInt8
  source : Address
  destination : Address
  /-- The destination port. -/
  port : Port
  outInterface : String
  deriving DecidableEq, Repr

def Protocol.number : Protocol → UInt8
  | .tcp => 6
  | .udp => 17

/-- What a rule wants of a packet; what is not given does not matter. -/
structure Criteria where
  protocol : Option Protocol := none
  source : Option Address := none
  destination : Option Address := none
  ports : Option Ports := none
  outInterface : Option String := none
  deriving DecidableEq, Repr

def Criteria.Matches (takes : String → String → Bool) (c : Criteria) (p : Packet) : Prop :=
  (∀ q ∈ c.protocol, p.protocol = q.number) ∧ (∀ ip ∈ c.source, p.source = ip) ∧
    (∀ ip ∈ c.destination, p.destination = ip) ∧ (∀ ports ∈ c.ports, ports.covers p.port) ∧
      ∀ i ∈ c.outInterface, takes i p.outInterface = true

instance (takes : String → String → Bool) (c : Criteria) (p : Packet) :
    Decidable (c.Matches takes p) := by
  unfold Criteria.Matches
  infer_instance

/-- A rule for the ports of a protocol asks for them and for where a packet comes from and goes
    to. -/
theorem Criteria.matches_iff {takes : String → String → Bool} {c : Criteria} {x : Packet}
    {q : Protocol} {ports : Ports} (hprotocol : c.protocol = some q) (hports : c.ports = some ports) :
    c.Matches takes x ↔
      ((∀ ip ∈ c.source, x.source = ip) ∧ (∀ ip ∈ c.destination, x.destination = ip) ∧
        ∀ i ∈ c.outInterface, takes i x.outInterface = true) ∧
      q.number = x.protocol ∧ ports.covers x.port := by
  unfold Matches
  rw [hprotocol, hports]
  simp only [Option.mem_some_iff, forall_eq']
  constructor
  · rintro ⟨hnumber, hsource, hdestination, hport, hout⟩
    exact ⟨⟨hsource, hdestination, hout⟩, hnumber.symm, hport⟩
  · rintro ⟨⟨hsource, hdestination, hout⟩, hnumber, hport⟩
    exact ⟨hnumber.symm, hsource, hdestination, hport, hout⟩

/-- What becomes of a packet that a rule matches. -/
inductive Target where
  | accept
  | masquerade
  | rewriteSource (ip : Address)
  | rewriteDestination (ip : Address) (ports : Ports)
  deriving DecidableEq, Repr

structure PacketRule where
  criteria : Criteria
  target : Target
  deriving DecidableEq, Repr

/-- Where a chain sends a packet: the first rule that matches decides. -/
def verdict (takes : String → String → Bool) (rules : List PacketRule) (p : Packet) :
    Option Target :=
  (rules.find? fun r => r.criteria.Matches takes p).map PacketRule.target

/-- A rule changes where a packet goes. -/
def PacketRule.Rewrites (takes : String → String → Bool) (r : PacketRule) (p : Packet) : Prop :=
  r.criteria.Matches takes p ∧ ∃ ip ports, r.target = .rewriteDestination ip ports

/-! ### Reading arguments -/

def Protocol.ofWord? (word : String) : Option Protocol :=
  [Protocol.tcp, .udp].find? fun p => p.word == word

/-- A port, or two with a separator between them. -/
def Ports.ofChars? (sep : Char) (cs : List Char) : Option Ports :=
  match Text.splitAt sep cs with
  | [p] => (Port.ofChars? p).map .single
  | [first, last] => do return .span (← Port.ofChars? first) (← Port.ofChars? last)
  | _ => none

/-- An address and ports with a colon between them. -/
def readEndpoint (cs : List Char) : Option (Address × Ports) := do
  let (ip, ports) ← Text.cutAt ':' cs
  return (← Address.ofChars? ip, ← Ports.ofChars? '-' ports)

/-- A rule as far as its arguments were read. -/
structure Draft extends Criteria where
  jump : Option String := none
  toSource : Option Address := none
  toDestination : Option (Address × Ports) := none

namespace Draft

/-- No option is given twice. -/
def once {α : Type} : Option α → Option α → Option (Option α)
  | none, some a => some (some a)
  | _, _ => none

/-- Read one option with its value.  Ports can be given behind a protocol only, and what a
    target needs to know behind that target only. -/
def accept (r : Draft) (option value : String) : Option Draft :=
  if option = "-p" then
    (once r.protocol (Protocol.ofWord? value)).map fun p => { r with protocol := p }
  else if option = "-s" then
    (once r.source (Address.ofString? value)).map fun ip => { r with source := ip }
  else if option = "-d" then
    (once r.destination (Address.ofString? value)).map fun ip => { r with destination := ip }
  else if option = "--dport" ∧ r.protocol.isSome then
    (once r.ports (Ports.ofChars? ':' value.toList)).map fun ports => { r with ports := ports }
  else if option = "-o" then
    (once r.outInterface (some value)).map fun i => { r with outInterface := i }
  else if option = "-j" then
    (once r.jump (some value)).map fun word => { r with jump := word }
  else if option = "--to-source" ∧ r.jump = some "SNAT" then
    (once r.toSource (Address.ofString? value)).map fun ip => { r with toSource := ip }
  else if (option = "--to" ∨ option = "--to-destination") ∧ r.jump = some "DNAT" then
    (once r.toDestination (readEndpoint value.toList)).map fun x => { r with toDestination := x }
  else if option = "-m" ∧ value = "comment" ∨ option = "--comment" then some r
  else none

def read (r : Draft) : List String → Option Draft
  | [] => some r
  | [_] => none
  | option :: value :: rest => (r.accept option value).bind fun r => r.read rest

/-- The rule, if its target has all that it needs. -/
def finish (r : Draft) : Option PacketRule :=
  match r.jump, r.toSource, r.toDestination with
  | some "ACCEPT", none, none => some ⟨r.toCriteria, .accept⟩
  | some "MASQUERADE", none, none => some ⟨r.toCriteria, .masquerade⟩
  | some "SNAT", some ip, none => some ⟨r.toCriteria, .rewriteSource ip⟩
  | some "DNAT", none, some (ip, ports) => some ⟨r.toCriteria, .rewriteDestination ip ports⟩
  | _, _, _ => none

end Draft

/-- What the arguments of a rule say. -/
def PacketRule.ofArgs? (args : List String) : Option PacketRule :=
  (Draft.read {} args).bind Draft.finish

/-! ### What was written is read back -/

@[simp] theorem Protocol.ofWord?_word (p : Protocol) : Protocol.ofWord? p.word = some p := by
  cases p <;> rfl

theorem Port.ofChars?_digits (p : Port) : Port.ofChars? (Text.digits p.toNat) = some p :=
  Port.ofChars?_eq_some_iff.2 (portForm_digits p)

section Written

variable {sep : Char} (hsep : Text.isDigit sep = false)
include hsep

theorem Ports.ofChars?_single (p : Port) :
    Ports.ofChars? sep (Text.digits p.toNat) = some (.single p) := by
  unfold Ports.ofChars?
  rw [Text.splitAt_of_notMem (Text.notMem_digits hsep _)]
  simp [Port.ofChars?_digits]

theorem Ports.ofChars?_span (first last : Port) :
    Ports.ofChars? sep (Text.digits first.toNat ++ sep :: Text.digits last.toNat)
      = some (.span first last) := by
  unfold Ports.ofChars?
  rw [Text.splitAt_append_sep (Text.notMem_digits hsep _),
    Text.splitAt_of_notMem (Text.notMem_digits hsep _)]
  simp [Port.ofChars?_digits]

end Written

theorem Ports.toList_asMatch (ports : Ports) :
    ports.asMatch.toList = match ports with
      | .single p => Text.digits p.toNat
      | .span first last => Text.digits first.toNat ++ ':' :: Text.digits last.toNat := by
  cases ports <;> simp [asMatch, portText]

theorem Ports.toList_asTarget (ports : Ports) :
    ports.asTarget.toList = match ports with
      | .single p => Text.digits p.toNat
      | .span first last => Text.digits first.toNat ++ '-' :: Text.digits last.toNat := by
  cases ports <;> simp [asTarget, portText]

@[simp] theorem Ports.ofChars?_asMatch (ports : Ports) :
    Ports.ofChars? ':' ports.asMatch.toList = some ports := by
  rw [Ports.toList_asMatch]
  cases ports with
  | single p => exact Ports.ofChars?_single (by decide) p
  | span first last => exact Ports.ofChars?_span (by decide) first last

@[simp] theorem Ports.ofChars?_asTarget (ports : Ports) :
    Ports.ofChars? '-' ports.asTarget.toList = some ports := by
  rw [Ports.toList_asTarget]
  cases ports with
  | single p => exact Ports.ofChars?_single (by decide) p
  | span first last => exact Ports.ofChars?_span (by decide) first last

@[simp] theorem readEndpoint_text (ip : Address) (ports : Ports) :
    readEndpoint (ip.text.toList ++ ':' :: ports.asTarget.toList) = some (ip, ports) := by
  have hcolon : ':' ∉ ip.toChars := by
    intro h
    rcases ip.eq_or_isDigit_of_mem_toChars h with h | h
    · exact absurd h (by decide)
    · exact absurd h (by decide)
  unfold readEndpoint Address.text
  rw [String.toList_ofList, Text.cutAt_append_sep hcolon]
  simp [Address.ofChars?_toChars]

end GuestPorts
