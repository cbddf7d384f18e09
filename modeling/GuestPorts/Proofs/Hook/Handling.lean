/-
  GuestPorts/Proofs/Hook/Handling.lean
  ====================================
  **What handling an event comes to**, for any service: one equation for each way that it can
  end.

  The event is written down first, so everything else happens in the state that this leaves,
  whether it succeeded or not (`Service.logged`).  An action that drives no rules ends there.
  For the others the store is asked; only when it has a declaration that compiles are commands
  written down, and only then can any be run (`Service.handle_of_batch`).  So what the parts of
  a service keep is kept from there on (`Service.kept_of_logged`, `Service.kept_of_written`).
-/
import GuestPorts.Hook.Service
import GuestPorts.Proofs.Batch.Calls

namespace GuestPorts

/-- An action that drives rules always has something to run. -/
theorem Declaration.ne_nil_of_compile {d : Declaration} {a : Action} (ha : a.drivesRules = true)
    {batch : Batch} (h : d.compile a = .ok batch) : batch ≠ [] := by
  cases a with
  | start =>
    obtain ⟨p, -, h⟩ := Except.bind_eq_ok.1 h
    cases h
    exact List.cons_ne_nil _ _
  | stopped =>
    obtain ⟨p, -, h⟩ := Except.bind_eq_ok.1 h
    cases h
    exact List.cons_ne_nil _ _
  | reconnect =>
    obtain ⟨p, -, h⟩ := Except.bind_eq_ok.1 h
    cases h
    exact List.cons_ne_nil _ _
  | _ => cases ha

namespace Store

variable {σ : Type} {store : Store σ} {vmName : String} {a : Action}

theorem dispatch_of_inert (store : Store σ) (vmName : String) (ha : a.drivesRules = false) :
    store.dispatch vmName a = pure .ignored := by
  unfold dispatch
  rw [ha]
  rfl

/-- What follows from what the store has for a guest. -/
def settle (a : Action) : Option Declaration → Effect σ DispatchError Dispatch
  | none => pure .undeclared
  | some d => do return .batch (← Effect.ofExcept ((d.compile a).mapError .compile))

theorem dispatch_of_drives (store : Store σ) (vmName : String) (ha : a.drivesRules = true) :
    store.dispatch vmName a = Effect.wrap .store (store.find vmName) >>= settle a := by
  unfold dispatch
  rw [ha]
  rfl

theorem result_find (store : Store σ) (vmName : String) (s : σ) :
    (store.find vmName).result s
      = ((store.load.result s).1.map (·.find? vmName), (store.load.result s).2) := by
  unfold find
  rw [bind_pure_comp, Effect.result_map]

variable {s s' : σ}

theorem dispatch_of_found (ha : a.drivesRules = true) {found : Option Declaration}
    (hfind : (store.find vmName).result s = (.ok found, s')) :
    (store.dispatch vmName a).result s = (settle a found).result s' := by
  rw [dispatch_of_drives store vmName ha]
  exact Effect.bind_of_ok (Effect.wrap_of_ok hfind) _

end Store

namespace Hook.Service

variable {σ : Type} {svc : Service σ} {vmName : String} {a : Action} {now : Moment} {s s' : σ}

/-- What follows from a dispatched event. -/
def react (svc : Service σ) : Dispatch → Effect σ DispatchError Outcome
  | .ignored => pure .ignored
  | .undeclared => pure .undeclared
  | .batch [] => pure .ignored
  | .batch batch => svc.carryOut batch

/-- The state behind the attempt to write an event down. -/
def logged (svc : Service σ) (vmName : String) (a : Action) (now : Moment) (s : σ) : σ :=
  ((svc.audit.recordEvent vmName a now).result s).2

/-- The state behind the attempt to write a batch down. -/
def written (svc : Service σ) (batch : Batch) (s : σ) : σ :=
  ((svc.audit.recordCommands (batch.render svc.runner.program)).result s).2

/-- **An event is written down before anything else**, and that it may fail is all the same. -/
theorem result_handle (svc : Service σ) (vmName : String) (a : Action) (now : Moment) (s : σ) :
    (svc.handle vmName a now).result s
      = (svc.store.dispatch vmName a >>= svc.react).result (svc.logged vmName a now s) := rfl

theorem handle_of_inert (svc : Service σ) (vmName : String) (ha : a.drivesRules = false)
    (now : Moment) (s : σ) :
    (svc.handle vmName a now).result s = (.ok .ignored, svc.logged vmName a now s) := by
  rw [result_handle, Store.dispatch_of_inert svc.store vmName ha]
  rfl

theorem handle_of_unreadable (ha : a.drivesRules = true) {e : StoreError}
    (hfind : (svc.store.find vmName).result (svc.logged vmName a now s) = (.error e, s')) :
    (svc.handle vmName a now).result s = (.error (.store e), s') := by
  rw [result_handle, Store.dispatch_of_drives svc.store vmName ha]
  apply Effect.bind_of_error
  apply Effect.bind_of_error
  exact Effect.wrap_of_error hfind

theorem handle_of_undeclared (ha : a.drivesRules = true)
    (hfind : (svc.store.find vmName).result (svc.logged vmName a now s) = (.ok none, s')) :
    (svc.handle vmName a now).result s = (.ok .undeclared, s') := by
  rw [result_handle]
  exact Effect.bind_of_ok (Store.dispatch_of_found ha hfind) _

section Found

variable {d : Declaration}
  (hfind : (svc.store.find vmName).result (svc.logged vmName a now s) = (.ok (some d), s'))

include hfind

theorem handle_of_refused (ha : a.drivesRules = true) {e : CompileError}
    (hcompile : d.compile a = .error e) :
    (svc.handle vmName a now).result s = (.error (.compile e), s') := by
  rw [result_handle]
  apply Effect.bind_of_error
  rw [Store.dispatch_of_found ha hfind, Store.settle, hcompile]
  rfl

/-- **A batch is carried out in the state that the store leaves.** -/
theorem handle_of_batch (ha : a.drivesRules = true) {batch : Batch}
    (hcompile : d.compile a = .ok batch) :
    (svc.handle vmName a now).result s = (svc.carryOut batch).result s' := by
  have hdispatch : (svc.store.dispatch vmName a).result (svc.logged vmName a now s)
      = (.ok (.batch batch), s') := by
    rw [Store.dispatch_of_found ha hfind, Store.settle, hcompile]
    rfl
  rw [result_handle, Effect.bind_of_ok hdispatch]
  cases batch with
  | nil => exact absurd rfl (Declaration.ne_nil_of_compile ha hcompile)
  | cons c rest => rfl

end Found

theorem carryOut_of_record (hmode : svc.mode = .record) (batch : Batch) (s : σ) :
    (svc.carryOut batch).result s = (.ok (.recorded batch), svc.written batch s) := by
  unfold carryOut
  rw [hmode]
  rfl

theorem carryOut_of_apply (hmode : svc.mode = .apply) (batch : Batch) (s : σ) :
    (svc.carryOut batch).result s
      = (.ok (.applied (batch.execute svc.runner (svc.written batch s)).1),
          (batch.execute svc.runner (svc.written batch s)).2) := by
  unfold carryOut
  rw [hmode]
  rfl

/-! ### What is kept behind a record -/

section Keeps

open Effect (Keeps)

/-- The runner leaves a file as it is, if commands are run at all. -/
def Spares (svc : Service σ) (get : σ → Disk) (path : String) : Prop :=
  svc.mode = .apply → ∀ content c,
    Keeps (fun x => (get x).bytesAt path = .ok content) (svc.runner.run c)

variable {P : σ → Prop} (hload : Keeps P svc.store.load)
  (hcommands : ∀ lines, Keeps P (svc.audit.recordCommands lines))
  (hrun : svc.mode = .apply → ∀ c, Keeps P (svc.runner.run c))

include hload in
theorem keeps_dispatch (vmName : String) (a : Action) : Keeps P (svc.store.dispatch vmName a) := by
  have hfind : Keeps P (svc.store.find vmName) := hload.bind fun _ => .pure _
  cases ha : a.drivesRules with
  | false =>
    rw [Store.dispatch_of_inert svc.store vmName ha]
    exact .pure _
  | true =>
    rw [Store.dispatch_of_drives svc.store vmName ha]
    refine (hfind.wrap _).bind fun found => ?_
    cases found with
    | none => exact .pure _
    | some d => exact (Keeps.ofExcept _).bind fun _ => .pure _

include hrun in
/-- Behind the lines of its commands, a batch keeps what its calls keep. -/
theorem kept_of_written {batch : Batch} (hs : P (svc.written batch s)) :
    P ((svc.carryOut batch).result s).2 := by
  cases hmode : svc.mode with
  | record =>
    rw [carryOut_of_record hmode]
    exact hs
  | apply =>
    rw [carryOut_of_apply hmode]
    exact Batch.kept_of_calls (fun call _ => hrun hmode call.1 call.2) hs

include hload hcommands hrun in
/-- **Behind the line of an event**, handling it keeps what its parts keep. -/
theorem kept_of_logged (hs : P (svc.logged vmName a now s)) :
    P ((svc.handle vmName a now).result s).2 := by
  have hreact : ∀ found, Keeps P (svc.react found) := by
    intro found
    cases found with
    | ignored => exact .pure _
    | undeclared => exact .pure _
    | batch commands =>
      cases commands with
      | nil => exact .pure _
      | cons c rest => exact fun x hx => kept_of_written hrun (hcommands _ x hx)
  rw [result_handle]
  exact (keeps_dispatch hload vmName a).bind hreact _ hs

end Keeps

end Hook.Service

end GuestPorts
