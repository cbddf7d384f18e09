/-
  GuestPorts/Command.lean
  =======================
  **Commands of the packet filter** as data.  A command is one call of the filter
  program: compiled as a value, shown as a line, and run as a list of arguments, so
  that nothing passes through a shell.  Each command carries the stage that it was
  compiled for, which decides what its failure means for the rest of its batch.
-/
import GuestPorts.Chain
import GuestPorts.Text.Basic

namespace GuestPorts

inductive ChainOp where
  | newChain
  | append
  | insert
  | delete
  | flush
  | deleteChain
  deriving DecidableEq, Repr, Inhabited

def ChainOp.flag : ChainOp → String
  | .newChain => "-N"
  | .append => "-A"
  | .insert => "-I"
  | .delete => "-D"
  | .flush => "-F"
  | .deleteChain => "-X"

inductive Stage where
  | create
  /-- The rules of one mapping or range; `block` is its place in the batch. -/
  | populate (block : Nat)
  | link
  | unlink
  | destroy
  deriving DecidableEq, Repr, Inhabited

/-- Whether a failure at this stage leaves nothing for the rest of the batch to do. -/
def Stage.isCritical : Stage → Bool
  | .create | .link => true
  | _ => false

structure Command where
  table : Table
  op : ChainOp
  chain : String
  /-- Match and target arguments behind the chain. -/
  args : List String
  stage : Stage
  deriving DecidableEq, Repr, Inhabited

namespace Command

def argv (c : Command) : List String := ["-t", c.table.word, c.op.flag, c.chain] ++ c.args

def render (program : String) (c : Command) : String := Text.joined " " (program :: c.argv)

/-- The word behind the first `-j` of an argument list. -/
def targetOf : List String → Option String
  | [] => none
  | "-j" :: rest => rest.head?
  | _ :: rest => targetOf rest

def jumpTarget (c : Command) : Option String := targetOf c.args

def defaultProgram : String := "iptables"

end Command

/-- The commands of one event, in the order in which they run. -/
abbrev Batch := List Command

def Batch.render (program : String) (batch : Batch) : List String :=
  batch.map (Command.render program)

end GuestPorts
