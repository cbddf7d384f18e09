/-
  GuestPorts/Settings/Basic.lean
  ==============================
  **Settings of a host**: where things are kept, which program filters packets, and
  whether commands are run or only recorded.

  Variables of the environment take the place of three of them (`override`).  Settings
  are checked in one order, and the first thing wrong is reported (`validate`); checked
  settings have a block that can be found (`Settings.validate`).
-/
import GuestPorts.Command
import GuestPorts.Disk.Basic
import GuestPorts.Perimeter.Block
import GuestPorts.Text.Characters

namespace GuestPorts

inductive Mode where
  | apply
  | record
  deriving DecidableEq, Repr, Inhabited

namespace Mode

def word : Mode → String
  | .apply => "apply"
  | .record => "record"

def ofWord? (s : String) : Option Mode :=
  if s = "apply" then some .apply else if s = "record" then some .record else none

/-- A mode by its word in any case, blanks around it allowed; otherwise the word as it
    was understood. -/
def parse (s : String) : Except String Mode :=
  let lowered := Text.lowerCase (Text.trimmed s)
  match ofWord? lowered with
  | some m => .ok m
  | none => .error lowered

def unknownMessage (lowered : String) : String :=
  "unknown mode '" ++ lowered ++ "', expected apply or record"

end Mode

structure PerimeterSettings where
  rulesFile : String := "/etc/ufw/before.rules"
  block : Perimeter.Block := {}
  /-- Program and arguments that load a changed rule file; none of them if empty. -/
  reloadCommand : List String := ["ufw", "reload"]
  deriving DecidableEq, Repr, Inhabited

structure Settings where
  storePath : String := "/var/lib/kvmfwd/forwarding.json"
  logDir : String := "/var/log/kvmfwd"
  filterProgram : String := Command.defaultProgram
  useSudo : Bool := false
  mode : Mode := .apply
  perimeter : PerimeterSettings := {}
  deriving DecidableEq, Repr, Inhabited

inductive SettingsError where
  | emptyField (name : String)
  | emptyMarkers
  | equalMarkers (marker : String)
  deriving DecidableEq, Repr

def SettingsError.message : SettingsError → String
  | .emptyField name => name ++ " cannot be empty"
  | .emptyMarkers => "perimeter markers cannot be empty"
  | .equalMarkers marker =>
    "perimeter.start_marker and perimeter.end_marker must differ (both '" ++ marker ++ "')"

namespace Settings

def storePathVariable : String := "KVMFWD_STORE_PATH"
def logDirVariable : String := "KVMFWD_LOG_DIR"
def modeVariable : String := "KVMFWD_MODE"

/-- The settings with what the environment says in their place.  Empty paths and words
    that are no mode say nothing. -/
def override (s : Settings) (env : String → Option String) : Settings :=
  let path (name fallback : String) : String :=
    match env name with
    | some v => if v.isEmpty then fallback else v
    | none => fallback
  { s with
    storePath := path storePathVariable s.storePath
    logDir := path logDirVariable s.logDir
    mode :=
      match (env modeVariable).map Mode.parse with
      | some (.ok m) => m
      | _ => s.mode }

def isBlank (s : String) : Bool := (Text.trimmed s).isEmpty

def validate (s : Settings) : Except SettingsError Unit :=
  let b := s.perimeter.block
  if s.storePath.isEmpty then .error (.emptyField "store_path")
  else if s.logDir.isEmpty then .error (.emptyField "log_dir")
  else if isBlank s.filterProgram then .error (.emptyField "iptables_path")
  else if s.perimeter.rulesFile.isEmpty then .error (.emptyField "perimeter.rules_file")
  else if isBlank b.startMarker || isBlank b.endMarker then .error .emptyMarkers
  else if Text.trimmed b.startMarker = Text.trimmed b.endMarker then
    .error (.equalMarkers b.startMarker)
  else if b.commentMarker.isEmpty then .error (.emptyField "perimeter.comment_marker")
  else .ok ()

def hookLogPath (s : Settings) : String := Path.append s.logDir "kvmfwd-hook.log"

def eventsPath (s : Settings) : String := Path.append s.logDir "kvmfwd-events.log"

def commandsPath (s : Settings) : String := Path.append s.logDir "kvmfwd-commands.log"

def programLine (s : Settings) : String :=
  if s.useSudo then "sudo " ++ s.filterProgram else s.filterProgram

end Settings

end GuestPorts
