/-
  GuestPorts/Process/FilterRunner.lean
  ====================================
  **Running programs on a host**, and the commands of the packet filter among them.

  A runner is anything that runs commands, with what it does as an effect.  On a host it calls
  the filter program, one command at a time and with its arguments as they are, either directly
  or through `sudo`, which must not ask for a password.
-/
import GuestPorts.Command
import GuestPorts.Shell.Run
import GuestPorts.Text.Basic

namespace GuestPorts

/-! ### Programs -/

namespace Host

def maxDepth : Nat := 64

/-- Run a program, at most `n` of them inside each other. -/
def spawnWithin : Nat → Shell.Launch
  | 0, _, _, _, _ => .error .exhausted
  | n + 1, h, input, name, args => do
    if args.any (·.toList.contains '\x00') then throw .nulInArgument
    let (path, content) ← h.program name
    match Tool.ofImage? content with
    | some .shell => return Shell.runShell (spawnWithin n) { host := h, name := "sh", streams := { input } } args
    | some .launcher => return Shell.runLauncher (spawnWithin n) h input args
    | some tool =>
      let (outcome, disk) := tool.run input args h.disk
      return (outcome, { h with disk })
    | none =>
      match Shell.interpreter? content with
      | some (interpreter :: options) => spawnWithin n h input interpreter (options ++ path :: args)
      | _ => throw .notExecutableFormat

/-- Run a program that can read nothing, and wait for its end. -/
def spawn (program : String) (args : List String) : Effect Host OsError Outcome :=
  Effect.ofFunction fun h =>
    match spawnWithin maxDepth h [] program args with
    | .ok (outcome, h) => (.ok outcome, h)
    | .error e => (.error e, h)

end Host

/-! ### Commands of the packet filter -/

inductive RunnerError where
  | spawnFailed (program reason : String)
  /-- No status means that a signal ended the program. -/
  | nonZeroExit (status : Option Int) (stderr : String)
  deriving DecidableEq, Repr

def statusText : Option Int → String
  | none => "None"
  | some n => "Some(" ++ (if n < 0 then "-" else "") ++ Text.decimal n.natAbs ++ ")"

def RunnerError.message : RunnerError → String
  | .spawnFailed program reason => "Failed to spawn '" ++ program ++ "': " ++ reason
  | .nonZeroExit status stderr => "Command exited with status " ++ statusText status ++ ": " ++ stderr

structure Runner (σ : Type) where
  /-- The program as it is shown in rendered lines. -/
  program : String
  run : Command → Effect σ RunnerError Unit

namespace Runner

def callOf (program : String) (useSudo : Bool) (c : Command) : String × List String :=
  if useSudo then ("sudo", "-n" :: program :: c.argv) else (program, c.argv)

def verdict (o : Outcome) : Except RunnerError Unit :=
  if o.exit.isSuccess then .ok () else .error (.nonZeroExit o.exit.code? o.complaint)

def ofProgram (program : String) (useSudo : Bool) : Runner Host where
  program := if useSudo then "sudo " ++ program else program
  run c := do
    let (name, args) := callOf program useSudo c
    let outcome ← Effect.wrap (fun e => .spawnFailed program e.message) (Host.spawn name args)
    Effect.ofExcept (verdict outcome)

end Runner

end GuestPorts
