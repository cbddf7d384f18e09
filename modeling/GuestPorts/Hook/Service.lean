/-
  GuestPorts/Hook/Service.lean
  ============================
  **Handling an event** from its announcement to its commands: it is written down, its
  batch is found, the commands are written down, and unless they are only to be
  recorded they are run.

  An action that drives no rules is answered before the store is asked, so it does not
  depend on the store.  Writing down may fail without any effect on the rest.
-/
import GuestPorts.Batch.Compile
import GuestPorts.Batch.Execute
import GuestPorts.Hook.Event
import GuestPorts.Registry.File
import GuestPorts.Settings.Basic

namespace GuestPorts

/-! ### Dispatch -/

/-- Why an event comes to nothing although it should have come to something. -/
inductive DispatchError where
  | store (reason : StoreError)
  | compile (reason : CompileError)
  deriving DecidableEq, Repr

def DispatchError.message : DispatchError → String
  | .store reason => "Failed to read forwarding declaration: " ++ reason.message
  | .compile reason => reason.message

inductive Dispatch where
  /-- The action drives no rules. -/
  | ignored
  | undeclared
  | batch (commands : Batch)
  deriving DecidableEq, Repr

def Store.dispatch {σ : Type} (store : Store σ) (vmName : String) (action : Action) :
    Effect σ DispatchError Dispatch := do
  if !action.drivesRules then return .ignored
  match ← Effect.wrap .store (store.find vmName) with
  | none => return .undeclared
  | some d => return .batch (← Effect.ofExcept ((d.compile action).mapError .compile))

end GuestPorts

namespace GuestPorts.Hook

/-! ### Handling -/

inductive Outcome where
  | undeclared
  /-- There is nothing to run. -/
  | ignored
  /-- The commands are written down and not run. -/
  | recorded (commands : Batch)
  | applied (report : Report)
  deriving DecidableEq, Repr

structure Service (σ : Type) where
  store : Store σ
  runner : Runner σ
  audit : Audit σ
  mode : Mode

namespace Service

variable {σ : Type}

/-- Write down a batch and, in the mode that applies it, run it. -/
def carryOut (svc : Service σ) (batch : Batch) : Effect σ DispatchError Outcome := do
  let _ ← Effect.attempt (svc.audit.recordCommands (batch.render svc.runner.program))
  match svc.mode with
  | .record => return .recorded batch
  | .apply => return .applied (← Effect.ofFunction fun s =>
      let (report, s) := batch.execute svc.runner s
      (.ok report, s))

def handle (svc : Service σ) (vmName : String) (action : Action) (now : Moment) :
    Effect σ DispatchError Outcome := do
  let _ ← Effect.attempt (svc.audit.recordEvent vmName action now)
  match ← svc.store.dispatch vmName action with
  | .ignored => return .ignored
  | .undeclared => return .undeclared
  | .batch [] => return .ignored
  | .batch batch => svc.carryOut batch

end Service

end GuestPorts.Hook
