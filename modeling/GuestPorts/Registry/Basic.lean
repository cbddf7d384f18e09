/-
  GuestPorts/Registry/Basic.lean
  ==============================
  **The registry**: the declarations of all guests, in the order in which they came.

  **No aliases.**  Two guests whose chains share a name would write into each other's
  rules, so a declaration is refused when one of its chain names is taken by another
  guest; entries whose own name is unusable have no chains and are passed over.

  Lookups and replacements concern the first entry of a name; a removal takes all of
  them.  A refused change leaves the registry as it was: the operations return the new
  registry only when they succeed.
-/
import GuestPorts.Chain
import GuestPorts.Declaration

namespace GuestPorts

inductive DeclarationError where
  | name (e : NameError)
  | collision (vmName other chain : String)
  deriving DecidableEq, Repr

def DeclarationError.message : DeclarationError → String
  | .name e => e.message
  | .collision vmName other chain =>
    "Chain " ++ chain ++ " of VM '" ++ vmName ++ "' would alias VM '" ++ other ++ "'"

structure Registry where
  entries : List Declaration := []
  lastUpdated : Option Moment := none
  deriving DecidableEq, Repr, Inhabited

namespace Registry

/-- The first declaration of a guest. -/
def find? (r : Registry) (vmName : String) : Option Declaration :=
  r.entries.find? fun d => d.vmName == vmName

/-- The chain name that a guest's chains would share with this entry's, if any. -/
def aliasWith (chains : Chains) (entry : Declaration) : Option String :=
  match Chains.ofGuest entry.vmName with
  | .ok others => chains.sharedName others
  | .error _ => none

/-- The first entry of another guest that shares a chain name, and that name. -/
def firstAlias (vmName : String) (chains : Chains) : List Declaration → Option (String × String)
  | [] => none
  | entry :: rest =>
    if entry.vmName = vmName then firstAlias vmName chains rest
    else
      match aliasWith chains entry with
      | some chain => some (entry.vmName, chain)
      | none => firstAlias vmName chains rest

def checkUnaliased (r : Registry) (vmName : String) : Except DeclarationError Unit :=
  match Chains.ofGuest vmName with
  | .error e => .error (.name e)
  | .ok chains =>
    match firstAlias vmName chains r.entries with
    | some (other, chain) => .error (.collision vmName other chain)
    | none => .ok ()

/-- The entries with `d` in the place of the first one of its name, or at the end. -/
def putFirst (d : Declaration) : List Declaration → List Declaration
  | [] => [d]
  | entry :: rest =>
    if entry.vmName = d.vmName then d :: rest else entry :: putFirst d rest

def upsert (r : Registry) (d : Declaration) (now : Moment) : Except DeclarationError Registry := do
  r.checkUnaliased d.vmName
  let stamped := { d with lastUpdated := some now }
  return { entries := putFirst stamped r.entries, lastUpdated := some now }

def mergedEntry (r : Registry) (update : Declaration) (now : Moment) : Declaration :=
  match r.find? update.vmName with
  | some d => { d.absorb update with lastUpdated := some now }
  | none => { update with lastUpdated := some now }

/-- Fold an update into the guest's first declaration, or keep it as a new one; the
    result is the registry and the declaration as it is kept. -/
def merge (r : Registry) (update : Declaration) (now : Moment) :
    Except DeclarationError (Registry × Declaration) := do
  r.checkUnaliased update.vmName
  let merged := r.mergedEntry update now
  return ({ entries := putFirst merged r.entries, lastUpdated := some now }, merged)

/-- Drop every declaration of a guest, and say whether there was one. -/
def remove (r : Registry) (vmName : String) (now : Moment) : Registry × Bool :=
  let kept := r.entries.filter fun d => d.vmName != vmName
  if kept.length = r.entries.length then (r, false)
  else ({ entries := kept, lastUpdated := some now }, true)

end Registry

end GuestPorts
