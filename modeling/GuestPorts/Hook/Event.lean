/-
  GuestPorts/Hook/Event.lean
  ==========================
  **Lifecycle events of guests**: the actions that the hypervisor announces, and what is written
  down about them.

  Three actions drive rules.  The others, and any word that is not in the table, are
  kept as they are and do nothing.

  There is one line for each event, and the commands of the latest one.  In files, lines of
  events are only ever added, and the commands take the place of those before them.
-/
import GuestPorts.Disk.Basic
import GuestPorts.Text.Basic
import GuestPorts.Time.Basic

namespace GuestPorts

/-! ### Actions -/

inductive Action where
  | start
  | stopped
  | reconnect
  | started
  | prepare
  | restore
  | release
  | migrate
  | other (word : String)
  deriving DecidableEq, Repr, Inhabited

namespace Action

def table : List (String × Action) :=
  [("start", .start), ("stopped", .stopped), ("reconnect", .reconnect), ("started", .started),
   ("prepare", .prepare), ("restore", .restore), ("release", .release), ("migrate", .migrate)]

/-- An action by its word, blanks around it allowed. -/
def parse (raw : String) : Action :=
  let word := Text.trimmed raw
  match table.lookup word with
  | some a => a
  | none => .other word

def word : Action → String
  | .start => "start"
  | .stopped => "stopped"
  | .reconnect => "reconnect"
  | .started => "started"
  | .prepare => "prepare"
  | .restore => "restore"
  | .release => "release"
  | .migrate => "migrate"
  | .other w => w

def drivesRules : Action → Bool
  | .start | .stopped | .reconnect => true
  | _ => false

end Action

def eventLine (vmName : String) (action : Action) (moment : Moment) : String :=
  "LIBVIRT_HOOK: " ++ moment.textToSecond ++ " Event received - Domain: " ++ vmName
    ++ ", Action: " ++ action.word

/-! ### The audit -/

structure AuditError where
  path : String
  reason : OsError
  deriving DecidableEq, Repr

def AuditError.message (e : AuditError) : String :=
  "Failed to write audit file " ++ e.path ++ ": " ++ e.reason.message

structure Audit (σ : Type) where
  recordEvent : String → Action → Moment → Effect σ AuditError Unit
  recordCommands : List String → Effect σ AuditError Unit

namespace Audit

/-- The text of a list of commands: its lines, each ended. -/
def commandsText (lines : List String) : String := Text.joined "\n" lines ++ "\n"

/-- Work on a file whose directory is made if need be. -/
def onFile (path : String) (step : Effect Disk OsError Unit) : Effect Disk AuditError Unit :=
  Effect.wrap (AuditError.mk path) do
    match Path.parent? path with
    | some directory => Disk.makeDirectories directory
    | none => pure ()
    step

def inFiles (events commands : String) : Audit Disk where
  recordEvent vmName action moment :=
    onFile events (Disk.appendText events (eventLine vmName action moment ++ "\n"))
  recordCommands lines := onFile commands (Disk.writeText commands (commandsText lines))

def within {σ τ : Type} (audit : Audit σ) (get : τ → σ) (set : σ → τ → τ) : Audit τ where
  recordEvent vmName action moment := Effect.within get set (audit.recordEvent vmName action moment)
  recordCommands lines := Effect.within get set (audit.recordCommands lines)

end Audit

end GuestPorts
