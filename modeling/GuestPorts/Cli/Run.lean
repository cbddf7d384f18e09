/-
  GuestPorts/Cli/Run.lean
  =======================
  **The two programs**: what each prints and does to the host for a line of arguments.

  An error is printed and makes the status 1; arguments that do not fit make it 2.  The
  hypervisor's program prints nothing, because nobody reads it.
-/
import GuestPorts.Cli.Commands

namespace GuestPorts.Cli

def version : String := "0.3.0"

structure Printed where
  code : Nat := 0
  output : String := ""
  errors : String := ""
  deriving DecidableEq, Repr

def disableBridgeFilter (path : String) : Act Unit := do
  printLine <|
    match ← onDisk ("Failed to write " ++ path) (fun e => [e.message]) (BridgeFilter.disable path) with
    | .disabled => "✓ Bridge netfilter disabled"
    | .alreadyDisabled => "Bridge netfilter already disabled"
    | .absent => "br_netfilter not loaded, nothing to disable"

def carryOut (config : Option String) (now : Moment) : Request → Act Unit
  | .nothing => pure ()
  | .add d isReplacing => do addDeclaration (← engineSettings config) d isReplacing now
  | .remove vmName => do removeDeclaration (← engineSettings config) vmName now
  | .show vmName asJson => do showDeclaration (← engineSettings config) vmName asJson
  | .list asJson => do listDeclarations (← engineSettings config) asJson
  | .preview vmName action => do previewEvent (← engineSettings config) vmName (Action.parse action)
  | .handle vmName action => do announceEvent (← engineSettings config) vmName (Action.parse action) now
  | .block r => do changeOrShowBlock (← engineSettings config) r
  | .showSettings withPaths => showSettings config withPaths
  | .checkSettings file => checkSettings (file <|> config)
  | .writeSample file => writeSample file
  | .disableBridgeFilter path => disableBridgeFilter path

def stopped : Stop → Printed
  | .usage => { code := 2 }
  | .version command => { output := command ++ " " ++ version ++ "\n" }
  | .help => {}

def printed (r : Except Trouble Unit × Terminal) : Printed × Host :=
  match r with
  | (.ok (), t) => ({ output := t.output }, t.host)
  | (.error e, t) => ({ code := 1, output := t.output, errors := e.render }, t.host)

def operate (args : List String) (now : Moment) (h : Host) : Printed × Host :=
  match readOperator h.value? args with
  | .error s => (stopped s, h)
  | .ok (_, .nothing) =>
    ({ code := 1, errors := "No command specified. Use --help for usage.\n" }, h)
  | .ok (config, request) => printed ((carryOut config now request).result { host := h })

/-- Make the file that the hook program's own log goes to. -/
def openLog (path : String) : Effect Host OsError Unit :=
  Host.onDisk do
    Disk.makeDirectories (Path.directory path)
    Disk.touch path

def hookEvent (config : Option String) (vmName action : String) (now : Moment) : Act Unit := do
  let settings ← Effect.attempt (engineSettings config)
  let log :=
    match settings with
    | .ok s => s.hookLogPath
    | .error _ => ({} : Settings).hookLogPath
  let _ ← Effect.attempt (onHost "" (fun _ => []) (openLog log))
  let s ← Effect.ofExcept settings
  let _ ← handleEvent s vmName (Action.parse action) now

def hook (args : List String) (now : Moment) (h : Host) : Printed × Host :=
  match readHook h.value? args with
  | .error s => (stopped s, h)
  | .ok (config, vmName, action) =>
    match (hookEvent config vmName action now).result { host := h } with
    | (.ok (), t) => ({}, t.host)
    | (.error _, t) => ({ code := 1 }, t.host)

end GuestPorts.Cli
