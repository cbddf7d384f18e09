/-
  GuestPorts/Chain.lean
  =====================
  **The chains of a guest.**  Every guest owns three chains of the packet filter: one
  that changes the destination of incoming traffic, one that changes the source of
  what leaves the guest, and one that accepts forwarded traffic.  Their names are
  derived from the guest's name whenever they are needed and stored nowhere.

  **The 28-byte limit.**  The kernel refuses longer names.  A guest name that does not
  fit behind its role is cut at a character boundary, and eight digits of a digest of
  the whole name follow the cut, so that two long names with one beginning still get
  different chains.  The derivation is written over any digest (`Role.nameWith`); the
  library's own uses SHA-256 (`Role.name`).
-/
import GuestPorts.Text.Basic
import GuestPorts.Text.Characters
import GuestPorts.Text.Utf8
import GuestPorts.Digest

namespace GuestPorts

inductive Table where
  | nat
  | filter
  deriving DecidableEq, Repr, Inhabited

def Table.word : Table → String
  | .nat => "nat"
  | .filter => "filter"

inductive NameError where
  | empty
  | badCharacter (vmName : String) (ch : Char)
  deriving DecidableEq, Repr

def NameError.message : NameError → String
  | .empty => "VM name is empty"
  | .badCharacter vmName ch =>
    "VM name '" ++ vmName ++ "' contains character " ++ Text.quotedChar ch
      ++ " not allowed in chain names"

inductive Role where
  /-- Changes the destination of traffic addressed to the host. -/
  | ingress
  /-- Changes the source of traffic that leaves the guest. -/
  | egress
  /-- Accepts forwarded traffic to the guest. -/
  | forward
  deriving DecidableEq, Repr, Inhabited

namespace Role

/-- The roles in the order in which their chains are made and destroyed. -/
def all : List Role := [.ingress, .egress, .forward]

def tag : Role → String
  | .ingress => "DNAT"
  | .egress => "SNAT"
  | .forward => "FWD"

def table : Role → Table
  | .ingress | .egress => .nat
  | .forward => .filter

/-- The longest chain name, in bytes. -/
def maxBytes : Nat := 28

def digestDigits : Nat := 8

/-- Characters that the packet filter refuses in a chain name, blanks and controls
    apart. -/
def forbidden : List Char := ['!', '\'', '"', '\\', '/', ':']

def refuses (c : Char) : Bool := Text.isBlank c || Text.isControl c || forbidden.contains c

/-- A guest name is usable when it is not empty and every character is allowed. -/
def checkName (vmName : String) : Except NameError Unit :=
  if vmName.toList.isEmpty then .error .empty
  else
    match vmName.toList.find? refuses with
    | some ch => .error (.badCharacter vmName ch)
    | none => .ok ()

/-- The longest front of the text that has at most `budget` bytes. -/
def frontWithin : Nat → List Char → List Char
  | _, [] => []
  | budget, c :: r => if c.utf8Size ≤ budget then c :: frontWithin (budget - c.utf8Size) r else []

/-- The bytes that remain for a cut name between its tag, two hyphens and a digest. -/
def budget (role : Role) : Nat := maxBytes - Text.byteLength role.tag.toList - 2 - digestDigits

/-- The chain name of a usable guest name, for any digest. -/
def nameWith (digest : List Char → List Char) (role : Role) (vm : List Char) : List Char :=
  let whole := role.tag.toList ++ '-' :: vm
  if Text.byteLength whole ≤ maxBytes then whole
  else role.tag.toList ++ '-' :: (frontWithin role.budget vm ++ '-' :: digest vm)

def name (role : Role) (vmName : String) : Except NameError String := do
  checkName vmName
  return String.ofList (role.nameWith Digest.shortDigest vmName.toList)

end Role

structure Chain where
  role : Role
  name : String
  deriving DecidableEq, Repr

def Chain.table (c : Chain) : Table := c.role.table

structure Chains where
  ingress : Chain
  egress : Chain
  forward : Chain
  deriving DecidableEq, Repr

namespace Chains

def ofGuest (vmName : String) : Except NameError Chains := do
  return {
    ingress := ⟨.ingress, ← Role.ingress.name vmName⟩
    egress := ⟨.egress, ← Role.egress.name vmName⟩
    forward := ⟨.forward, ← Role.forward.name vmName⟩ }

def toList (cs : Chains) : List Chain := [cs.ingress, cs.egress, cs.forward]

def names (cs : Chains) : List String := cs.toList.map Chain.name

/-- The first chain name that these chains have in common with `others`. -/
def sharedName (cs others : Chains) : Option String :=
  cs.names.find? fun mine => others.names.contains mine

end Chains

end GuestPorts
