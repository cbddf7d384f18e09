/-
  GuestPorts/Process/Host.lean
  ============================
  **A host**: its disk and the variables of its environment, and what a program leaves on it
  when it ends.

  A program is a file that may be executed.  The name of a program without a slash is
  looked for in the directories of the variable `PATH`.
-/
import GuestPorts.Disk.Basic
import GuestPorts.Text.Basic
import GuestPorts.Text.Utf8

namespace GuestPorts

inductive Exit where
  | code (n : Nat)
  | signal (n : Nat)
  deriving DecidableEq, Repr

namespace Exit

def code? : Exit → Option Int
  | .code n => some n
  | .signal _ => none

def isSuccess (e : Exit) : Bool := e = .code 0

/-- The status that a shell shows for the end of a program. -/
def status : Exit → Nat
  | .code n => n
  | .signal n => 128 + n

end Exit

structure Outcome where
  exit : Exit := .code 0
  output : List UInt8 := []
  errors : List UInt8 := []
  deriving DecidableEq, Repr

/-- What a program says about its failure, blanks around it dropped. -/
def Outcome.complaint (o : Outcome) : String :=
  String.ofList (Text.trim (Text.decodeLossy o.errors))

/-- The variables of a program's environment, the first one of a name counting. -/
abbrev Environment := List (String × String)

structure Host where
  disk : Disk := {}
  environment : Environment := []
  deriving DecidableEq, Repr, Inhabited

namespace Host

def value? (h : Host) (name : String) : Option String := h.environment.lookup name

def onDisk {ε α : Type} (step : Effect Disk ε α) : Effect Host ε α :=
  Effect.within Host.disk (fun d h => { h with disk := d }) step

/-- Whether anybody may execute a file of this mode. -/
def isExecutable (mode : Nat) : Bool := mode &&& 0o111 != 0

def imageAt (d : Disk) (path : String) : Except OsError (List UInt8) := do
  match (← d.find path).2 with
  | .directory => throw .notPermitted
  | .file content mode => if isExecutable mode then return content else throw .notPermitted

/-- The first of some directories that has the program.  Where it is found but may not
    be executed the search goes on, and that is what counts if it ends in vain. -/
def search (d : Disk) (program : String) : OsError → List String → Except OsError (String × List UInt8)
  | reason, [] => .error reason
  | reason, directory :: rest =>
    let path := if directory.isEmpty then "./" ++ program else Path.append directory program
    match imageAt d path with
    | .ok content => .ok (path, content)
    | .error .notPermitted => search d program .notPermitted rest
    | .error .notFound | .error .notDirectory => search d program reason rest
    | .error e => .error e

def programDirectories (h : Host) : List String :=
  match h.value? "PATH" with
  | some path => (Text.splitAt ':' path.toList).map String.ofList
  | none => ["/bin", "/usr/bin"]

def program (h : Host) (name : String) : Except OsError (String × List UInt8) :=
  if name.toList.contains '\x00' then .error .nulInArgument
  else if name.isEmpty then .error .notFound
  else if name.toList.contains '/' then return (name, ← imageAt h.disk name)
  else search h.disk name .notFound h.programDirectories

end Host

end GuestPorts
