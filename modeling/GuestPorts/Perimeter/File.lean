/-
  GuestPorts/Perimeter/File.lean
  ==============================
  **The rule file**: anything that can be read, written and loaded, each with an effect of
  its own, so faults may come at any point.

  On a host an edit takes a lock beside the file first.  A new text takes the place of the old
  one in one step and keeps the file's mode; the file has to exist.  Then a command of the host
  loads it.
-/
import GuestPorts.Perimeter.Block
import GuestPorts.Process.FilterRunner

namespace GuestPorts.Perimeter

structure RuleFile (σ : Type) where
  read : Effect σ Fault String
  write : String → Effect σ Fault Unit
  /-- Tell the firewall to load what is written. -/
  reload : Effect σ Fault Unit
  /-- Whatever an edit has to do before it reads, such as taking a lock. -/
  guard : Effect σ Fault Unit := pure ()

/-- Read, transform and write back, only if the text changes; whether it did. -/
def RuleFile.edit {σ : Type} (file : RuleFile σ) (transform : String → Except Fault String) :
    Effect σ Fault Bool := do
  file.guard
  let before ← file.read
  let after ← Effect.ofExcept (transform before)
  if after = before then return false
  file.write after
  return true

/-- Edit, and load the new text if there is one; whether the text changed. -/
def RuleFile.update {σ : Type} (file : RuleFile σ) (transform : String → Except Fault String) :
    Effect σ Fault Bool := do
  if ← file.edit transform then
    file.reload
    return true
  else return false

/-! ### The rule file of a host -/

def ioFault (path : String) (e : OsError) : Fault := .io path e.message

def replaceFile (path text : String) : Effect Disk Fault Unit :=
  Effect.wrap (ioFault path) do
    let mode ← Effect.asks (·.modeAt path)
    Disk.replaceText path mode text

def reloadWith (call : List String) : Effect Host Fault Unit :=
  match call with
  | [] => pure ()
  | program :: args => do
    let failed (reason : String) : Fault := .reload (Text.joined " " call) reason
    let outcome ← Effect.wrap (fun e => failed e.message) (Host.spawn program args)
    if !outcome.exit.isSuccess then throw (failed outcome.complaint)

def RuleFile.onHost (path : String) (reload : List String) : RuleFile Host where
  read := Host.onDisk (Effect.wrap (ioFault path) (Disk.readText path))
  write text := Host.onDisk (replaceFile path text)
  reload := reloadWith reload
  guard := Host.onDisk (Effect.wrap (ioFault (Path.lockBeside path)) (Disk.touch (Path.lockBeside path)))

end GuestPorts.Perimeter
