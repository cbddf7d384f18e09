/-
  GuestPorts/BridgeFilter.lean
  ============================
  **The bridge filter**: a switch of the kernel, shown as a file, that sends the traffic
  between guests through the host's rules.  It has to be off while guests have chains.
-/
import GuestPorts.Disk.Basic
import GuestPorts.Text.Basic

namespace GuestPorts.BridgeFilter

/-- Where the kernel shows the switch. -/
def defaultPath : String := "/proc/sys/net/bridge/bridge-nf-call-iptables"

inductive State where
  /-- It was on and is off now. -/
  | disabled
  | alreadyDisabled
  /-- The kernel has no such switch. -/
  | absent
  deriving DecidableEq, Repr

def isOff (text : String) : Bool := Text.trimmed text = "0"

def disable (path : String) : Effect Disk OsError State := do
  match ← Effect.attempt (Disk.readText path) with
  | .error .notFound => return .absent
  | .error e => throw e
  | .ok text =>
    if isOff text then return .alreadyDisabled
    Disk.writeText path "0\n"
    return .disabled

end GuestPorts.BridgeFilter
