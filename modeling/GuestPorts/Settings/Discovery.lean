/-
  GuestPorts/Settings/Discovery.lean
  ==================================
  **Finding the settings of a host.**  A file that is named explicitly must be there.
  Otherwise the first file that exists counts: the one that the environment names, the
  one in the working directory, the user's, the system's.  Without a file the settings
  have their defaults.  The environment's overrides come last in every case.
-/
import GuestPorts.Disk.Basic
import GuestPorts.Settings.Yaml
import GuestPorts.Text.Characters

namespace GuestPorts.Settings

def configPathVariable : String := "KVMFWD_CONFIG_PATH"

/-- The settings file in the working directory, and the system's. -/
def localFile : String := "./kvmfwd-config.yaml"
def systemFile : String := "/etc/kvmfwd/config.yaml"

/-- The user's settings file; without a home there is none. -/
def userFile (env : String → Option String) : Option String :=
  match env "HOME" with
  | some home => if home.isEmpty then none
    else some (Path.append (Path.append home ".kvmfwd") "config.yaml")
  | none => none

/-- The files that may hold settings, the first one counting. -/
def candidates (env : String → Option String) : List String :=
  (env configPathVariable).toList ++ [localFile] ++ (userFile env).toList ++ [systemFile]

def discover (d : Disk) (env : String → Option String) : Option String :=
  (candidates env).find? d.hasPath

inductive LoadReason where
  | io (reason : OsError)
  | malformed
  deriving DecidableEq, Repr

structure LoadError where
  path : String
  reason : LoadReason
  deriving DecidableEq, Repr

def LoadError.message (e : LoadError) : String :=
  "Failed to load settings at " ++ Text.quotedPath e.path ++ ": " ++
    match e.reason with
    | .io reason => reason.message
    | .malformed => "the text is not a settings document"

def ofFile (d : Disk) (path : String) : Except LoadError Settings :=
  match d.textAt path with
  | .error e => .error ⟨path, .io e⟩
  | .ok text =>
    match ofYaml? text with
    | some s => .ok s
    | none => .error ⟨path, .malformed⟩

/-- The settings of a host, from a file that is named or from the one that is found. -/
def load (d : Disk) (env : String → Option String) (explicit : Option String) :
    Except LoadError Settings := do
  match explicit <|> discover d env with
  | some path => return (← ofFile d path).override env
  | none => return ({} : Settings).override env

end GuestPorts.Settings
