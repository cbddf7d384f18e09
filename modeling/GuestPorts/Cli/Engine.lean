/-
  GuestPorts/Cli/Engine.lean
  ==========================
  **What the programs work with**: a terminal, on a host, and the parts that the settings of
  the host name.

  An operator sees what failed, and under it the causes, from the nearest to the first one.  A
  single cause is indented; several are numbered.  What was printed before an error stays
  printed.
-/
import GuestPorts.Hook.Service
import GuestPorts.Perimeter.Service
import GuestPorts.Process.FilterRunner
import GuestPorts.Process.Host
import GuestPorts.Registry.File
import GuestPorts.Settings.Discovery
import GuestPorts.Text.Basic

namespace GuestPorts.Cli

/-! ### Errors -/

structure Trouble where
  message : String
  causes : List String := []
  deriving DecidableEq, Repr

namespace Trouble

def indented (width : Nat) (text : String) : String :=
  Text.joined ("\n" ++ String.ofList (List.replicate width ' '))
    ((Text.lines text.toList).map String.ofList)

/-- The causes with their numbers, the first one being number `n`. -/
def numbered : Nat → List String → List String
  | _, [] => []
  | n, cause :: rest =>
    (String.ofList (List.replicate (5 - (Text.digits n).length) ' ') ++ Text.decimal n ++ ": "
      ++ indented 7 cause) :: numbered (n + 1) rest

def render (t : Trouble) : String :=
  let causes :=
    match t.causes with
    | [] => []
    | [cause] => ["", "Caused by:", "    " ++ indented 4 cause]
    | causes => "" :: "Caused by:" :: numbered 0 causes
  Text.joined "\n" (("Error: " ++ t.message) :: causes) ++ "\n"

/-- The causes that a store's error shows: itself, and what the system said. -/
def storeCauses (e : StoreError) : List String :=
  e.message ::
    match e with
    | .lock _ reason | .io _ reason => [reason.message]
    | _ => []

def dispatchCauses (e : DispatchError) : List String :=
  e.message ::
    match e with
    | .store reason => storeCauses reason
    | .compile _ => []

end Trouble

/-! ### The terminal -/

structure Terminal where
  host : Host
  output : String := ""
  deriving Repr

abbrev Act := Effect Terminal Trouble

def printLine (line : String) : Act Unit :=
  Effect.ofFunction fun t => (.ok (), { t with output := t.output ++ line ++ "\n" })

def printLines (lines : List String) : Act Unit := lines.forM printLine

def onHost {ε α : Type} (message : String) (causes : ε → List String) (step : Effect Host ε α) : Act α :=
  Effect.wrap (fun e => { message, causes := causes e })
    (Effect.within Terminal.host (fun h t => { t with host := h }) step)

def onDisk {ε α : Type} (message : String) (causes : ε → List String) (step : Effect Disk ε α) : Act α :=
  onHost message causes (Host.onDisk step)

def theHost : Act Host := Effect.asks fun t => .ok t.host

def padRight (width : Nat) (s : String) : String :=
  s ++ String.ofList (List.replicate (width - s.length) ' ')

def padLeft (width : Nat) (s : String) : String :=
  String.ofList (List.replicate (width - s.length) ' ') ++ s

/-! ### The parts -/

/-- The settings of the host, unchecked. -/
def loadSettings (config : Option String) : Act Settings := do
  let h ← theHost
  Effect.ofExcept ((Settings.load h.disk h.value? config).mapError fun e =>
    { message := "Failed to load engine settings", causes := [e.message] })

/-- Settings that are fit for use. -/
def checkedSettings (config : Option String) (failure : String) : Act Settings := do
  let s ← loadSettings config
  Effect.ofExcept (s.validate.mapError fun e => { message := failure, causes := [e.message] })
  return s

def engineSettings (config : Option String) : Act Settings :=
  checkedSettings config "Engine settings are invalid"

end GuestPorts.Cli

namespace GuestPorts.Settings

def store (s : Settings) : Store Host :=
  (Store.inFile s.storePath).within Host.disk fun d h => { h with disk := d }

def runner (s : Settings) : Runner Host := .ofProgram s.filterProgram s.useSudo

def audit (s : Settings) : Audit Host :=
  (Audit.inFiles s.eventsPath s.commandsPath).within Host.disk fun d h => { h with disk := d }

def hookService (s : Settings) : Hook.Service Host :=
  { store := s.store, runner := s.runner, audit := s.audit, mode := s.mode }

def perimeterService (s : Settings) : Perimeter.Service Host :=
  { block := s.perimeter.block
    file := .onHost s.perimeter.rulesFile s.perimeter.reloadCommand }

end GuestPorts.Settings
