/-
  GuestPorts/Batch/Compile.lean
  =============================
  **From a declaration and an action to commands.**

  | Action    | Commands                                                        |
  |-----------|-----------------------------------------------------------------|
  | start     | create the three chains, fill them, link them                   |
  | stopped   | unlink the chains, then flush and delete each                   |
  | reconnect | what `stopped` makes, then what `start` makes                   |
  | any other | none                                                            |

  Each forward fills the chains with one block of four rules: the destination is
  changed, the source is changed, traffic of the guest to itself is masqueraded,
  and forwarding is accepted.  Links and unlinks have the same match arguments, so
  that an unlink removes just what a link added.
-/
import GuestPorts.Command
import GuestPorts.Declaration
import GuestPorts.Hook.Event

namespace GuestPorts

inductive CompileError where
  | name (e : NameError)
  | missingAddress (vmName field : String)
  deriving DecidableEq, Repr

def CompileError.message : CompileError → String
  | .name e => e.message
  | .missingAddress vmName field => "VM '" ++ vmName ++ "' has no " ++ field ++ " configured"

def Chain.command (c : Chain) (op : ChainOp) (stage : Stage) : Command :=
  { table := c.table, op, chain := c.name, args := [], stage }

def Chain.rule (c : Chain) (stage : Stage) (args : List String) : Command :=
  { table := c.table, op := .append, chain := c.name, args, stage }

namespace Batch

def create (chains : Chains) : Batch :=
  chains.toList.map fun c => c.command .newChain .create

def destroy (chains : Chains) : Batch :=
  chains.toList.flatMap fun c => [c.command .flush .destroy, c.command .deleteChain .destroy]

/-- The jumps from the built-in chains: table, chain and arguments. -/
def jumps (chains : Chains) (host guest : Address) : List (Table × String × List String) :=
  [(.nat, "OUTPUT", ["-d", host.text, "-j", chains.ingress.name]),
   (.nat, "PREROUTING", ["-d", host.text, "-j", chains.ingress.name]),
   (.nat, "POSTROUTING", ["-s", guest.text, "-d", guest.text, "-j", chains.egress.name]),
   (chains.forward.table, "FORWARD", ["-d", guest.text, "-j", chains.forward.name])]

/-- The stage of a command that changes the jumps: a deletion unlinks. -/
def jumpStage : ChainOp → Stage
  | .delete => .unlink
  | _ => .link

def link (chains : Chains) (host guest : Address) (op : ChainOp) : Batch :=
  (jumps chains host guest).map fun j =>
    { table := j.1, op, chain := j.2.1, args := j.2.2, stage := jumpStage op }

/-- What the rules of a start are made from. -/
structure Plan where
  chains : Chains
  host : Address
  guest : Address
  source : Option Address
  interface : Option String
  forwards : List Forward

namespace Plan

def optional (flag : String) : Option String → List String
  | some v => [flag, v]
  | none => []

/-- Change the destination of what comes to the host. -/
def ingressRule (p : Plan) (f : Forward) (stage : Stage) : Command :=
  p.chains.ingress.rule stage <|
    ["-p", f.protocol.word, "-d", p.host.text, "--dport", f.host.asMatch]
    ++ optional "-s" (p.source.map Address.text)
    ++ ["-j", "DNAT", "--to", p.guest.text ++ ":" ++ f.guest.asTarget]

def sourceRule (p : Plan) (f : Forward) (stage : Stage) : Command :=
  p.chains.egress.rule stage
    ["-p", f.protocol.word, "-s", p.guest.text, "--dport", f.guest.asMatch,
     "-j", "SNAT", "--to-source", p.host.text]

/-- Masquerade what the guest sends to itself. -/
def hairpinRule (p : Plan) (f : Forward) (stage : Stage) : Command :=
  p.chains.egress.rule stage
    ["-p", f.protocol.word, "-s", p.guest.text, "-d", p.guest.text, "--dport", f.guest.asMatch,
     "-j", "MASQUERADE"]

def acceptRule (p : Plan) (f : Forward) (stage : Stage) : Command :=
  p.chains.forward.rule stage <|
    ["-p", f.protocol.word, "-d", p.guest.text, "--dport", f.guest.asMatch]
    ++ optional "-o" p.interface ++ ["-j", "ACCEPT"]

def block (p : Plan) (f : Forward) (number : Nat) : Batch :=
  let stage := Stage.populate number
  [p.ingressRule f stage, p.sourceRule f stage, p.hairpinRule f stage, p.acceptRule f stage]

/-- The blocks of the forwards, numbered from `number` on. -/
def blocksFrom (p : Plan) : Nat → List Forward → Batch
  | _, [] => []
  | number, f :: fs => p.block f number ++ blocksFrom p (number + 1) fs

def populate (p : Plan) : Batch := p.blocksFrom 0 p.forwards

def start (p : Plan) : Batch :=
  create p.chains ++ p.populate ++ link p.chains p.host p.guest .insert

def stop (p : Plan) : Batch :=
  link p.chains p.host p.guest .delete ++ destroy p.chains

/-- What is there goes first, so that a changed declaration takes effect. -/
def reconnect (p : Plan) : Batch := p.stop ++ p.start

end Plan

end Batch

/-- The plan of a declaration: a usable name is needed first, then both addresses. -/
def Declaration.plan (d : Declaration) : Except CompileError Batch.Plan := do
  let chains ← (Chains.ofGuest d.vmName).mapError CompileError.name
  let some host := d.hostIp | throw (.missingAddress d.vmName "host_ip")
  let some guest := d.privateIp | throw (.missingAddress d.vmName "private_ip")
  return { chains, host, guest, source := d.externalIp, interface := d.interface,
           forwards := d.forwards }

def Declaration.compile (d : Declaration) : Action → Except CompileError Batch
  | .start => return (← d.plan).start
  | .stopped => return (← d.plan).stop
  | .reconnect => return (← d.plan).reconnect
  | _ => return []

end GuestPorts
