/-
  GuestPorts/Main.lean
  ====================
  **The programs as they run.**  A picture of the host is taken that shows the files
  which the arguments are about, the request is carried out on the picture, and files
  that differ afterwards are written.

  No program is started from here, so the picture has none: commands of a batch and the
  reload command are reported as programs that do not exist.  Events that are only
  recorded need none.
-/
import GuestPorts.Cli.Request
import GuestPorts.Cli.Run
import Std.Time.DateTime.Timestamp

namespace GuestPorts.Console

def isDirectory (path : String) : IO Bool := do
  try
    let _ ← IO.FS.Handle.mk (path ++ "/.") .read
    return true
  catch _ => return false

def content? (path : String) : IO (Option (List UInt8)) := do
  try
    return some (← IO.FS.readBinFile path).toList
  catch _ => return none

def look (d : Disk) (path : String) : IO Disk := do
  let above := Path.directory path
  let d := if ← isDirectory above then ((Disk.makeDirectories above).result d).2 else d
  if ← isDirectory path then return ((Disk.makeDirectory path).result d).2
  match ← content? path with
  | some bytes => return ((Disk.revise path fun _ => bytes).result d).2
  | none => return d

/-- Write a file that differs from the picture taken before. -/
def save (before after : Disk) (path : String) : IO Unit := do
  match after.node? path with
  | some (.file content _) =>
    if (before.bytesAt path).toOption ≠ some content then
      IO.FS.createDirAll (Path.directory path)
      IO.FS.writeBinFile path ⟨content.toArray⟩
  | _ => return ()

def watched : List String :=
  ["HOME", "PATH", Settings.configPathVariable, "KVMFWD_LOG_LEVEL", Settings.storePathVariable,
   Settings.logDirVariable, Settings.modeVariable]

def environment : IO Environment :=
  watched.filterMapM fun name => do return (← IO.getEnv name).map (name, ·)

def now : IO Moment := do
  let t ← Std.Time.Timestamp.now
  return Moment.ofUnix t.val.second.val t.val.nano.val.toNat

def run (isHook : Bool) (args : List String) : IO UInt32 := do
  let environment ← environment
  let empty : Host := { environment, disk := (Disk.put { workingDirectory := ["work"] } ["work"] .directory) }
  let first := Cli.firstFiles empty.value? isHook args
  let disk ← first.foldlM look empty.disk
  let named := Cli.settingsFiles disk empty.value? isHook args
  let disk ← named.foldlM look disk
  let program := if isHook then Cli.hook else Cli.operate
  let (printed, after) := program args (← now) { empty with disk }
  (first ++ named).forM (save disk after.disk)
  (← IO.getStdout).putStr printed.output
  (← IO.getStderr).putStr printed.errors
  return UInt32.ofNat printed.code

end GuestPorts.Console

/-- The program is known by the name that it is called by. -/
def main (args : List String) : IO UInt32 := do
  let name := (GuestPorts.Path.names (toString (← IO.appPath))).getLast?
  GuestPorts.Console.run (name = some GuestPorts.Cli.hookSpec.name) args
