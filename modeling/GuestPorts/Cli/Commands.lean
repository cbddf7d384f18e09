/-
  GuestPorts/Cli/Commands.lean
  ============================
  **The commands**: on declarations, on the managed block of the rule file, on events and on
  settings.
-/
import GuestPorts.Cli.Engine
import GuestPorts.Cli.Request
import GuestPorts.Registry.Json

namespace GuestPorts.Cli

/-! ### Declarations -/

def addressText : Option Address → String
  | some a => a.text
  | none => "-"

def declarationLines (d : Declaration) : List String :=
  [d.vmName, "  Host IP:     " ++ addressText d.hostIp, "  Private IP:  " ++ addressText d.privateIp]
    ++ (d.externalIp.toList.map fun a => "  External IP: " ++ a.text)
    ++ (d.interface.toList.map fun i => "  Interface:   " ++ i)
    ++ (match Chains.ofGuest d.vmName with
        | .ok chains => ["  Chains:      " ++ Text.joined ", " chains.names]
        | .error _ => [])
    ++ (d.portMap.map fun m => "  Port:        " ++ m.render)
    ++ (d.portRanges.map fun r => "  Range:       " ++ r.render)
    ++ (d.lastUpdated.toList.map fun t => "  Updated:     " ++ t.textWithOffset)

def rangeWarnings (d : Declaration) : List String :=
  d.portRanges.filterMap fun r => r.defect.map fun defect =>
    "⚠ Range " ++ r.render ++ " will be skipped: " ++ defect.message

def listLine (vm host guest ports ranges : String) : String :=
  Text.joined " " [padRight 32 vm, padRight 16 host, padRight 16 guest, padLeft 6 ports, padLeft 7 ranges]

def listing (r : Registry) : List String :=
  listLine "VM" "HOST" "PRIVATE" "PORTS" "RANGES" :: r.entries.map fun d =>
    listLine d.vmName (addressText d.hostIp) (addressText d.privateIp)
      (Text.decimal d.portMap.length) (Text.decimal d.portRanges.length)

/-- Keep a declaration, in place of the guest's or folded into it; what is shown as kept. -/
def keepDeclaration (s : Settings) (d : Declaration) (isReplacing : Bool) (now : Moment) : Act Declaration :=
  if isReplacing then do
    onHost ("Failed to store declaration for '" ++ d.vmName ++ "'") Trouble.storeCauses
      (s.store.upsert d now)
    return d
  else
    onHost ("Failed to merge declaration for '" ++ d.vmName ++ "'") Trouble.storeCauses
      (s.store.merge d now)

def addDeclaration (s : Settings) (d : Declaration) (isReplacing : Bool) (now : Moment) : Act Unit := do
  printLines (rangeWarnings d)
  let kept ← keepDeclaration s d isReplacing now
  printLine ("✓ Forwarding declared for '" ++ kept.vmName ++ "'")
  printLines (declarationLines kept)
  printLine ""
  printLine "Rules take effect on the next start or reconnect of the domain."

def removeDeclaration (s : Settings) (vmName : String) (now : Moment) : Act Unit := do
  let removed ← onHost ("Failed to remove declaration for '" ++ vmName ++ "'") Trouble.storeCauses
    (s.store.remove vmName now)
  printLine (if removed then "✓ Removed declaration for '" ++ vmName ++ "'"
    else "No declaration stored for '" ++ vmName ++ "'")

def storedDeclaration (s : Settings) (vmName : String) : Act Declaration := do
  match ← onHost "Failed to read forwarding store" Trouble.storeCauses (s.store.find vmName) with
  | some d => return d
  | none => throw { message := "No declaration stored for '" ++ vmName ++ "'" }

def showDeclaration (s : Settings) (vmName : String) (asJson : Bool) : Act Unit := do
  let d ← storedDeclaration s vmName
  printLines (if asJson then [d.toDoc.text] else declarationLines d)

def listDeclarations (s : Settings) (asJson : Bool) : Act Unit := do
  let r ← onHost "Failed to read forwarding store" Trouble.storeCauses s.store.load
  printLines <|
    if asJson then [r.text]
    else if r.entries.isEmpty then ["No forwarding declarations."]
    else listing r

/-! ### The managed block -/

def reportChange (changed : Bool) (message : String) : Act Unit :=
  printLine (if changed then "✓ " ++ message else "Already up to date, nothing changed")

def changeBlock (failure : String) (step : Effect Host Perimeter.Fault Bool) (message : String) :
    Act Unit := do
  reportChange (← onHost failure (fun e => [e.message]) step) message

def statusLines (path : String) (st : Perimeter.Status) : List String :=
  ["Rule file: " ++ path, "Block: " ++ (if st.active then "active" else "inactive")]
    ++ st.rules.map ("  " ++ ·)

def changeOrShowBlock (s : Settings) (r : BlockRequest) : Act Unit := do
  let path := s.perimeter.rulesFile
  let svc := s.perimeterService
  match r with
  | .status =>
    let st ← onHost ("Failed to read " ++ path) (fun e => [e.message]) svc.status
    printLines (statusLines path st)
  | .enable =>
    changeBlock ("Failed to enable block in " ++ path) svc.enable "Perimeter block enabled"
  | .disable =>
    changeBlock ("Failed to disable block in " ++ path) svc.disable "Perimeter block disabled"
  | .add vmName =>
    let d ← storedDeclaration s vmName
    changeBlock ("Failed to add perimeter rules for '" ++ vmName ++ "'") (svc.expose d)
      ("Perimeter rules added for '" ++ vmName ++ "'")
  | .remove vmName =>
    let d ← storedDeclaration s vmName
    changeBlock ("Failed to remove perimeter rules for '" ++ vmName ++ "'") (svc.withdraw d)
      ("Perimeter rules removed for '" ++ vmName ++ "'")

/-! ### Events -/

def previewEvent (s : Settings) (vmName : String) (action : Action) : Act Unit := do
  let found ← onHost ("Failed to compile '" ++ action.word ++ "' for '" ++ vmName ++ "'")
    Trouble.dispatchCauses (s.store.dispatch vmName action)
  printLines <|
    match found with
    | .ignored => ["Action '" ++ action.word ++ "' does not drive rules"]
    | .undeclared => ["No forwarding declared for '" ++ vmName ++ "'"]
    | .batch [] => ["No commands for '" ++ action.word ++ "' on '" ++ vmName ++ "'"]
    | .batch commands => commands.render s.programLine

def reportSize (r : Report) : Nat := r.applied.length + r.failures.length + r.skipped.length

def failureText (vmName : String) (r : Report) : String :=
  Text.decimal r.failures.length ++ " of " ++ Text.decimal (reportSize r) ++ " commands failed for '"
    ++ vmName ++ "'" ++ (if r.aborted then ", batch aborted" else "")

/-- Handle an event; failed commands make it fail. -/
def handleEvent (s : Settings) (vmName : String) (action : Action) (now : Moment) : Act Hook.Outcome := do
  let outcome ← onHost ("Hook '" ++ action.word ++ "' for '" ++ vmName ++ "' failed")
    Trouble.dispatchCauses (s.hookService.handle vmName action now)
  match outcome with
  | .applied r => if r.failures.isEmpty then return outcome else throw { message := failureText vmName r }
  | _ => return outcome

def announceEvent (s : Settings) (vmName : String) (action : Action) (now : Moment) : Act Unit := do
  printLine <|
    match ← handleEvent s vmName action now with
    | .undeclared => "No forwarding configuration for '" ++ vmName ++ "'"
    | .ignored => "Action '" ++ action.word ++ "' produces no commands"
    | .recorded commands =>
      "✓ Recorded " ++ Text.decimal commands.length ++ " commands to " ++ s.commandsPath ++ " (record mode)"
    | .applied r => "✓ Applied " ++ Text.decimal r.applied.length ++ " commands for '" ++ vmName ++ "'"

/-! ### Settings -/

def sample : String :=
  Text.joined "\n"
    ["# kvmfwd engine settings",
     "#",
     "# Discovery order: --config, KVMFWD_CONFIG_PATH, ./kvmfwd-config.yaml,",
     "# ~/.kvmfwd/config.yaml, /etc/kvmfwd/config.yaml.",
     "# KVMFWD_STORE_PATH, KVMFWD_LOG_DIR and KVMFWD_MODE override the values below.",
     "",
     "# Forwarding declarations (JSON), shared by every hook invocation",
     "store_path: /var/lib/kvmfwd/forwarding.json",
     "",
     "# Hook diagnostics, event log and latest command batch",
     "log_dir: /var/log/kvmfwd",
     "",
     "# Packet-filter binary, optionally run through `sudo -n`",
     "iptables_path: iptables",
     "use_sudo: false",
     "",
     "# apply: execute batches; record: only write kvmfwd-commands.log",
     "mode: apply",
     "",
     "# Alternate exposure through the ufw rule file",
     "perimeter:",
     "  rules_file: /etc/ufw/before.rules",
     "  start_marker: \"#KVM_GO_START\"",
     "  end_marker: \"#KVM_GO_END\"",
     "  comment_marker: \"#\"",
     "  reload_command: [\"ufw\", \"reload\"]",
     ""]

def pathLines (config : Option String) (h : Host) : List String :=
  ["Settings discovery paths:",
   "  1. --config flag: " ++ config.getD "(not set)",
   "  2. " ++ Settings.configPathVariable ++ ": "
     ++ (h.value? Settings.configPathVariable).getD "(not set)",
   "  3. " ++ Settings.localFile,
   "  4. ~/.kvmfwd/config.yaml",
   "  5. " ++ Settings.systemFile]
    ++ (if config.isNone then
          ["  Using: " ++ (Settings.discover h.disk h.value?).getD "built-in defaults"]
        else [])
    ++ [""]

def settingsLines (s : Settings) : List String :=
  let p := s.perimeter
  ["Current settings:", "",
   "  Store:        " ++ s.storePath,
   "  Log dir:      " ++ s.logDir,
   "  Filter:       " ++ s.programLine,
   "  Mode:         " ++ s.mode.word, "",
   "Perimeter:",
   "  Rule file:    " ++ p.rulesFile,
   "  Markers:      " ++ p.block.startMarker ++ " ... " ++ p.block.endMarker,
   "  Reload:       "
     ++ (if p.reloadCommand.isEmpty then "(disabled)" else Text.joined " " p.reloadCommand)]

def showSettings (config : Option String) (withPaths : Bool) : Act Unit := do
  if withPaths then printLines (pathLines config (← theHost))
  printLines (settingsLines (← loadSettings config))

def checkSettings (config : Option String) : Act Unit := do
  printLine "Validating settings..."
  let _ ← checkedSettings config "Settings validation failed"
  printLine "✓ Settings are valid"

def writeSample (file : String) : Act Unit := do
  onDisk ("Failed to write settings to " ++ Text.quotedPath file) (fun e => [e.message])
    (Disk.writeText file sample)
  printLine ("✓ Settings generated: " ++ file)

end GuestPorts.Cli
