/-
  GuestPorts/Perimeter/Service.lean
  =================================
  **Operating the managed block.**  Every change reads the rule file, transforms its
  text and writes it back if it differs; only then the firewall is told to load it.
-/
import GuestPorts.Perimeter.File

namespace GuestPorts.Perimeter

variable {σ : Type}

structure Status where
  active : Bool
  rules : List String
  deriving DecidableEq, Repr

namespace Block

def toggled (b : Block) (off : Bool) (text : String) : String :=
  String.ofList (b.setCommented off text.toList)

def withRule (b : Block) (text rule : String) : Except Fault String :=
  match b.addRule rule.toList text.toList with
  | some after => .ok (String.ofList after)
  | none => .error (.blockNotFound b.startMarker b.endMarker)

def withoutRule (b : Block) (text rule : String) : String :=
  String.ofList (b.removeRule rule.toList text.toList)

def withRules (b : Block) (rules : List String) (text : String) : Except Fault String :=
  rules.foldlM b.withRule text

def withoutRules (b : Block) (rules : List String) (text : String) : String :=
  rules.foldl b.withoutRule text

def status (b : Block) (text : String) : Status :=
  { active := !b.isCommented text.toList
    rules := (b.filledLines text.toList).map String.ofList }

end Block

structure Service (σ : Type) where
  block : Block
  file : RuleFile σ

namespace Service

def status (svc : Service σ) : Effect σ Fault Status := do
  return svc.block.status (← svc.file.read)

/-- Switch the block on; whether the file changed. -/
def enable (svc : Service σ) : Effect σ Fault Bool :=
  svc.file.update fun text => .ok (svc.block.toggled false text)

def disable (svc : Service σ) : Effect σ Fault Bool :=
  svc.file.update fun text => .ok (svc.block.toggled true text)

def expose (svc : Service σ) (d : Declaration) : Effect σ Fault Bool := do
  let rs ← Effect.ofExcept (rules d)
  svc.file.update (svc.block.withRules rs)

def withdraw (svc : Service σ) (d : Declaration) : Effect σ Fault Bool := do
  let rs ← Effect.ofExcept (rules d)
  svc.file.update fun text => .ok (svc.block.withoutRules rs text)

def isExposed (svc : Service σ) (d : Declaration) : Effect σ Fault Bool := do
  match d.privateIp with
  | none => throw (.missingPrivateAddress d.vmName)
  | some ip => return svc.block.isExposed ip (← svc.file.read).toList

end Service

end GuestPorts.Perimeter
