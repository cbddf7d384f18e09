/-
  GuestPorts/Declaration.lean
  ===========================
  **Forwarding declarations**: which ports one guest exposes, and to whom.

  An address is written as four numerals without leading zeros; exactly these forms are read,
  so an address has one spelling.

  A declaration is the only thing that is kept about a guest; the guest's name is its key.
  `absorb` folds an update into a declaration: addresses and the interface are taken from the
  update where it has them, mappings and ranges are added unless an identical one is there.

  What is forwarded are its mappings and then its usable ranges, each as one entry with a host
  side and a guest side.  The packet filter writes a span of ports as `a:b` where it matches and
  as `a-b` where it changes an address; a single port is written alone in both places.
-/
import GuestPorts.Port.Basic
import GuestPorts.Text.Basic
import GuestPorts.Time.Basic

namespace GuestPorts

/-! ### Addresses -/

structure Address where
  a : UInt8
  b : UInt8
  c : UInt8
  d : UInt8
  deriving DecidableEq, Repr, Inhabited

namespace Address

/-- An octet: one to three digits, no leading zero, at most 255. -/
def readOctet (cs : List Char) : Option UInt8 :=
  if cs.length ≤ 3 && (cs.length ≤ 1 || cs.head? != some '0') then
    match Text.readDigits cs with
    | some n => if n < 256 then some (UInt8.ofNat n) else none
    | none => none
  else none

def ofChars? (cs : List Char) : Option Address :=
  match Text.splitAt '.' cs with
  | [a, b, c, d] => do
    return ⟨← readOctet a, ← readOctet b, ← readOctet c, ← readOctet d⟩
  | _ => none

def toChars (ip : Address) : List Char :=
  Text.join ['.'] ([ip.a, ip.b, ip.c, ip.d].map fun octet => Text.digits octet.toNat)

def ofString? (s : String) : Option Address := ofChars? s.toList

def text (ip : Address) : String := String.ofList ip.toChars

def syntaxFault : String := "invalid IPv4 address syntax"

end Address

/-! ### Declarations -/

structure Declaration where
  vmName : String
  portMap : List Mapping := []
  portRanges : List PortRange := []
  /-- The host's address on the side of the clients. -/
  hostIp : Option Address := none
  /-- The guest's address on its own network. -/
  privateIp : Option Address := none
  /-- When set, only traffic from this address is forwarded. -/
  externalIp : Option Address := none
  /-- When set, forwarded traffic is accepted through this interface only. -/
  interface : Option String := none
  lastUpdated : Option Moment := none
  deriving DecidableEq, Repr, Inhabited

/-- A list with the elements of `extra` behind it that are not in it yet. -/
def addMissing {α : Type} [DecidableEq α] (xs extra : List α) : List α :=
  extra.foldl (fun acc x => if x ∈ acc then acc else acc ++ [x]) xs

/-- Fold an update into a declaration.  The name and the time of the last change stay. -/
def Declaration.absorb (d update : Declaration) : Declaration :=
  { d with
    hostIp := update.hostIp <|> d.hostIp
    privateIp := update.privateIp <|> d.privateIp
    externalIp := update.externalIp <|> d.externalIp
    interface := update.interface <|> d.interface
    portMap := addMissing d.portMap update.portMap
    portRanges := addMissing d.portRanges update.portRanges }

def Declaration.usableRanges (d : Declaration) : List PortRange :=
  d.portRanges.filter PortRange.isUsable

theorem mem_addMissing {α : Type} [DecidableEq α] {xs extra : List α} {x : α} :
    x ∈ addMissing xs extra ↔ x ∈ xs ∨ x ∈ extra := by
  induction extra generalizing xs with
  | nil => simp [addMissing]
  | cons y ys ih =>
    have step : addMissing xs (y :: ys) = addMissing (if y ∈ xs then xs else xs ++ [y]) ys := rfl
    rw [step, ih]
    by_cases h : y ∈ xs
    · simp only [if_pos h, List.mem_cons]
      constructor
      · rintro (h' | h')
        · exact .inl h'
        · exact .inr (.inr h')
      · rintro (h' | rfl | h')
        · exact .inl h'
        · exact .inl h
        · exact .inr h'
    · simp [if_neg h, or_assoc]

/-! ### Forwards -/

inductive Ports where
  | single (p : Port)
  | span (first last : Port)
  deriving DecidableEq, Repr

namespace Ports

def asMatch : Ports → String
  | .single p => portText p
  | .span first last => portText first ++ ":" ++ portText last

def asTarget : Ports → String
  | .single p => portText p
  | .span first last => portText first ++ "-" ++ portText last

def covers (ports : Ports) (p : Port) : Prop :=
  match ports with
  | .single q => p = q
  | .span first last => first ≤ p ∧ p ≤ last

instance (ports : Ports) (p : Port) : Decidable (ports.covers p) := by
  cases ports <;> simp only [covers] <;> infer_instance

end Ports

structure Forward where
  protocol : Protocol
  host : Ports
  guest : Ports
  deriving DecidableEq, Repr

def Forward.ofMapping (m : Mapping) : Forward :=
  ⟨m.protocol, .single m.hostPort, .single m.vmPort⟩

def Forward.ofRange (r : PortRange) : Forward :=
  ⟨r.protocol, .span r.hostStart r.hostEnd, .span r.vmStart r.vmEnd⟩

/-- The entries of a declaration in the order in which rules are made from them. -/
def Declaration.forwards (d : Declaration) : List Forward :=
  d.portMap.map .ofMapping ++ d.usableRanges.map .ofRange

end GuestPorts
