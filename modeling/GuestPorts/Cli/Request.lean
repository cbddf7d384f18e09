/-
  GuestPorts/Cli/Request.lean
  ===========================
  **What can be asked for on the command line**: the commands with their options, and
  the request that a line of arguments makes.

  There are two programs: the one for operators, with a tree of commands, and the one
  that the hypervisor calls, which takes a guest, an action and whatever else is said.

  A picture of the host that shows the files which may hold settings, and those that the
  settings and the request name, is enough to carry out the request.
-/
import GuestPorts.BridgeFilter
import GuestPorts.Cli.Arguments
import GuestPorts.Declaration
import GuestPorts.Port.Spec
import GuestPorts.Settings.Discovery

namespace GuestPorts.Cli

inductive BlockRequest where
  | status
  | enable
  | disable
  | add (vmName : String)
  | remove (vmName : String)
  deriving DecidableEq, Repr

inductive Request where
  | nothing
  | add (d : Declaration) (isReplacing : Bool)
  | remove (vmName : String)
  | show (vmName : String) (asJson : Bool)
  | list (asJson : Bool)
  | preview (vmName action : String)
  | handle (vmName action : String)
  | block (r : BlockRequest)
  | showSettings (withPaths : Bool)
  | checkSettings (file : Option String)
  | writeSample (file : String)
  | disableBridgeFilter (path : String)
  deriving DecidableEq, Repr

/-! ### Options -/

def isPath (s : String) : Bool := !s.isEmpty

def isAddress (s : String) : Bool := (Address.ofString? s).isSome

def isMapping (s : String) : Bool := (Mapping.parse s).toBool

def isRange (s : String) : Bool := (PortRange.parse s).toBool

def configOption : OptionSpec :=
  { long := "config", short := some 'c', standIn := some Settings.configPathVariable
    accepts := isPath }

def logLevelOption : OptionSpec := { long := "log-level", standIn := some "KVMFWD_LOG_LEVEL" }

def sharedOptions : List OptionSpec := [configOption, logLevelOption]

def sampleFile : String := "./kvmfwd-config.yaml"

def vmSlot : Slot := {}

/-- A command that does something by itself. -/
def command (name : String) (options : List OptionSpec) (slots : List Slot) : Spec :=
  { name, options := sharedOptions ++ options, slots }

/-- A command that needs one of its subcommands. -/
def family (name : String) (subcommands : List Spec) : Spec :=
  { name, options := sharedOptions, subcommands, requiresSubcommand := true }

def forwardFamily : Spec :=
  family "forward"
    [command "add"
      [{ long := "host-ip", isRequired := true, accepts := isAddress },
       { long := "private-ip", isRequired := true, accepts := isAddress },
       { long := "external-ip", accepts := isAddress },
       { long := "interface" },
       { long := "map", kind := .values, accepts := isMapping },
       { long := "range", kind := .values, accepts := isRange },
       { long := "replace", kind := .flag }] [vmSlot],
     command "remove" [] [vmSlot],
     command "show" [{ long := "json", kind := .flag }] [vmSlot],
     command "list" [{ long := "json", kind := .flag }] []]

def perimeterFamily : Spec :=
  family "perimeter"
    [command "status" [] [], command "enable" [] [], command "disable" [] [],
     command "add" [] [vmSlot], command "remove" [] [vmSlot]]

def configFamily : Spec :=
  family "config"
    [command "show" [{ long := "paths", kind := .flag }] [],
     command "validate" [] [{ isRequired := false, accepts := isPath }],
     command "generate" [{ long := "output", short := some 'o', accepts := isPath }] []]

def bridgeFamily : Spec :=
  family "bridge-filter" [command "disable" [{ long := "path", accepts := isPath }] []]

def operatorSpec : Spec :=
  { name := "kvmfwd", options := sharedOptions
    subcommands :=
      [forwardFamily, command "compile" [] [{}, {}], command "hook" [] [{}, {}],
       perimeterFamily, configFamily, bridgeFamily] }

def hookSpec : Spec :=
  { name := "kvmfwd-hook"
    options := [{ configOption with short := none }, logLevelOption]
    slots := [{}, {}, { isRequired := false, takesRest := true }] }

/-! ### Requests -/

def declarationOf (g : Given) (vmName : String) : Declaration :=
  { vmName
    hostIp := (g.value? "host-ip").bind Address.ofString?
    privateIp := (g.value? "private-ip").bind Address.ofString?
    externalIp := (g.value? "external-ip").bind Address.ofString?
    interface := g.value? "interface"
    portMap := (g.values "map").filterMap fun s => (Mapping.parse s).toOption
    portRanges := (g.values "range").filterMap fun s => (PortRange.parse s).toOption }

/-- What the last commands of a line and their arguments ask for. -/
def requestOf (line : List Given) : Request :=
  match line.reverse with
  | leaf :: parent :: _ =>
    match parent.command, leaf.command, leaf.arguments with
    | "forward", "add", [vm] => .add (declarationOf leaf vm) (leaf.has "replace")
    | "forward", "remove", [vm] => .remove vm
    | "forward", "show", [vm] => .show vm (leaf.has "json")
    | "forward", "list", [] => .list (leaf.has "json")
    | "kvmfwd", "compile", [vm, action] => .preview vm action
    | "kvmfwd", "hook", [vm, action] => .handle vm action
    | "perimeter", "status", [] => .block .status
    | "perimeter", "enable", [] => .block .enable
    | "perimeter", "disable", [] => .block .disable
    | "perimeter", "add", [vm] => .block (.add vm)
    | "perimeter", "remove", [vm] => .block (.remove vm)
    | "config", "show", [] => .showSettings (leaf.has "paths")
    | "config", "validate", arguments => .checkSettings arguments.head?
    | "config", "generate", [] => .writeSample ((leaf.value? "output").getD sampleFile)
    | "bridge-filter", "disable", [] =>
      .disableBridgeFilter ((leaf.value? "path").getD BridgeFilter.defaultPath)
    | _, _, _ => .nothing
  | _ => .nothing

def readOperator (env : String → Option String) (args : List String) :
    Except Stop (Option String × Request) := do
  let line ← operatorSpec.read env args
  return (sharedValue env configOption line, requestOf line)

def readHook (env : String → Option String) (args : List String) :
    Except Stop (Option String × String × String) := do
  let line ← hookSpec.read env args
  match line with
  | [{ arguments := vm :: action :: _, .. }] => return (sharedValue env configOption line, vm, action)
  | _ => throw .usage

end GuestPorts.Cli

namespace GuestPorts.Settings

/-! ### The files of a request -/

def withLock (path : String) : List String := [path, Path.lockBeside path]

def files (s : Settings) : List String :=
  withLock s.storePath ++ withLock s.perimeter.rulesFile
    ++ [s.eventsPath, s.commandsPath, s.hookLogPath]

end GuestPorts.Settings

namespace GuestPorts.Cli

def Request.files : Request → List String
  | .checkSettings file => file.toList
  | .writeSample file => [file]
  | .disableBridgeFilter path => [path]
  | _ => []

def namedFiles (env : String → Option String) (isHook : Bool) (args : List String) :
    Option String × List String :=
  if isHook then
    match readHook env args with
    | .ok (config, _) => (config, [])
    | .error _ => (none, [])
  else
    match readOperator env args with
    | .ok (config, request) => (config, request.files)
    | .error _ => (none, [])

def firstFiles (env : String → Option String) (isHook : Bool) (args : List String) : List String :=
  let (config, named) := namedFiles env isHook args
  config.toList ++ Settings.candidates env ++ named

/-- The files that the settings name; the defaults count if there are none. -/
def settingsFiles (d : Disk) (env : String → Option String) (isHook : Bool) (args : List String) :
    List String :=
  match Settings.load d env (namedFiles env isHook args).1 with
  | .ok s => s.files
  | .error _ => ({} : Settings).files

end GuestPorts.Cli
