/-
  GuestPorts/Proofs/Hook/Reconnect.lean
  =====================================
  **Reconnecting after the declaration has changed.**

  A service is followed through any history of store changes and events of one guest,
  together with the addresses that the guest's jumps in the kernel are for
  (`Hook.Service.step`).  A final reconnect makes the kernel what a first start of the
  stored declaration would have made of it exactly when these addresses are among the
  declared ones (`reconnect_converges_iff`).  They need not be: a declaration whose address
  changes while the guest is up leaves jumps that no later batch names.
-/
import GuestPorts.Proofs.Hook.Handling
import GuestPorts.Proofs.Batch.Linked

namespace GuestPorts

/-! ### The service between its store and the kernel -/

namespace Hook.Service

variable {σ : Type}

/-- A service in apply mode whose store shows a registry and whose runner drives a kernel;
    neither the store nor the audit reaches into the kernel, and the audit does not reach
    into the registry. -/
structure Works (svc : Service σ) (registry : σ → Registry) (kernel : σ → Kernel) : Prop where
  mode_eq : svc.mode = .apply
  load : ∀ s, ∃ s', svc.store.load.result s = (.ok (registry s), s') ∧ kernel s' = kernel s
  change : ∀ {α : Type} (f : Change α) s, kernel ((svc.store.change f).result s).2 = kernel s
  drives : svc.runner.Drives kernel Runner.never
  recordEvent : ∀ vmName a now s,
    registry ((svc.audit.recordEvent vmName a now).result s).2 = registry s ∧
      kernel ((svc.audit.recordEvent vmName a now).result s).2 = kernel s
  recordCommands : ∀ lines s, kernel ((svc.audit.recordCommands lines).result s).2 = kernel s

variable {svc : Service σ} {registry : σ → Registry} {kernel : σ → Kernel}

theorem Works.dispatch_eq (hw : svc.Works registry kernel) (vmName : String) {a : Action}
    (ha : a.drivesRules = true) (s : σ) :
    ∃ s', kernel s' = kernel s ∧ (svc.store.dispatch vmName a).result s =
      (match (registry s).find? vmName with
        | none => .ok .undeclared
        | some d => ((d.compile a).map Dispatch.batch).mapError .compile, s') := by
  obtain ⟨s', hload, hkernel⟩ := hw.load s
  refine ⟨s', hkernel, ?_⟩
  unfold Effect.result at *
  unfold Store.dispatch
  simp only [ha, Bool.not_true, Bool.false_eq_true, if_false, Effect.bind_apply, Effect.wrap,
    Store.find, hload, Effect.pure_apply, Except.mapError]
  cases (registry s).find? vmName with
  | none => rfl
  | some d =>
    simp only []
    cases d.compile a <;> rfl

theorem Works.carryOut_kernel (hw : svc.Works registry kernel) (batch : Batch) (s : σ) :
    ∃ s', kernel s' = kernel s ∧
      ((svc.carryOut batch).result s).2 = (batch.execute svc.runner s').2 := by
  refine ⟨_, hw.recordCommands (batch.render svc.runner.program) s, ?_⟩
  unfold Effect.result carryOut
  simp only [Effect.bind_apply, Effect.attempt, hw.mode_eq]
  rfl

theorem Works.react_kernel (hw : svc.Works registry kernel) (batch : Batch) (s : σ) :
    ∃ s', kernel s' = kernel s ∧
      kernel ((svc.react (.batch batch)).result s).2 = kernel (batch.execute svc.runner s').2 := by
  cases batch with
  | nil => exact ⟨s, rfl, rfl⟩
  | cons c rest =>
    obtain ⟨s', hk, hs'⟩ := hw.carryOut_kernel (c :: rest) s
    exact ⟨s', hk, congrArg kernel hs'⟩

/-- **Handling an event does to the kernel what running its declaration does.** -/
theorem Works.handle_kernel (hw : svc.Works registry kernel) (vmName : String) (a : Action)
    (now : Moment) (s : σ) :
    ∃ s', kernel s' = kernel s ∧ kernel ((svc.handle vmName a now).result s).2 =
      match (registry s).find? vmName with
      | some d => kernel (d.run svc.runner s' a)
      | none => kernel s := by
  obtain ⟨hregistry, hkernel⟩ : registry (svc.logged vmName a now s) = registry s ∧
      kernel (svc.logged vmName a now s) = kernel s := hw.recordEvent vmName a now s
  rw [result_handle]
  generalize svc.logged vmName a now s = s₁ at hregistry hkernel
  cases ha : a.drivesRules with
  | false =>
    rw [Store.dispatch_of_inert svc.store vmName ha]
    refine ⟨s, rfl, ?_⟩
    cases (registry s).find? vmName with
    | none => exact hkernel
    | some d => exact hkernel.trans (congrArg kernel (d.run_of_inert svc.runner ha s).symm)
  | true =>
    obtain ⟨s₂, hk₂, hdispatch⟩ := hw.dispatch_eq vmName ha s₁
    unfold Effect.result at *
    rw [Effect.bind_apply, hdispatch, hregistry]
    cases (registry s).find? vmName with
    | none => exact ⟨s, rfl, hk₂.trans hkernel⟩
    | some d =>
      unfold Declaration.run
      simp only []
      cases d.compile a with
      | error e => exact ⟨s₂, hk₂.trans hkernel, rfl⟩
      | ok batch =>
        obtain ⟨s', hk', hrun⟩ := hw.react_kernel batch s₂
        exact ⟨s', hk'.trans (hk₂.trans hkernel), hrun⟩

/-- A service that keeps everything in memory and writes nothing down. -/
def inMemory : Service (Registry × Kernel × Nat) where
  store := Store.inMemory.within Prod.fst fun r s => (r, s.2)
  runner := Kernel.steadyRunner.within Prod.snd fun k s => (s.1, k)
  audit :=
    { recordEvent := fun _ _ _ => pure ()
      recordCommands := fun _ => pure () }
  mode := .apply

theorem works_inMemory : inMemory.Works Prod.fst fun s => s.2.1 where
  mode_eq := rfl
  load := fun s => ⟨s, rfl, rfl⟩
  change := fun _ _ => rfl
  drives := Kernel.drives_steadyRunner.within fun _ _ => rfl
  recordEvent := fun _ _ _ _ => ⟨rfl, rfl⟩
  recordCommands := fun _ _ => rfl

end Hook.Service

/-! ### Histories of a guest -/

def Registry.addresses? (r : Registry) (vmName : String) : Option (Address × Address) := do
  let d ← r.find? vmName
  return (← d.hostIp, ← d.privateIp)

namespace Hook

/-- What happens to a store or to a guest. -/
inductive Step where
  | upsert (d : Declaration) (now : Moment)
  | merge (update : Declaration) (now : Moment)
  | event (a : Action) (now : Moment)
  deriving DecidableEq, Repr

namespace Service

open Footprint (Shows)

variable {σ : Type} {svc : Service σ} {registry : σ → Registry} {kernel : σ → Kernel}

/-- One step of a guest's history, and what becomes of the addresses that its jumps are
    for. -/
def step (svc : Service σ) (registry : σ → Registry) (vmName : String) (x : σ × Linked) :
    Step → σ × Linked
  | .upsert d now => (((svc.store.upsert d now).result x.1).2, x.2)
  | .merge update now => (((svc.store.merge update now).result x.1).2, x.2)
  | .event a now =>
    (((svc.handle vmName a now).result x.1).2,
      match (registry x.1).addresses? vmName with
      | some (host, guest) => x.2.after host guest a
      | none => x.2)

/-- A guest's history from a state in which nothing of it is in the kernel. -/
def follow (svc : Service σ) (registry : σ → Registry) (vmName : String) (steps : List Step)
    (s : σ) : σ × Linked :=
  steps.foldl (svc.step registry vmName) (s, {})

variable {vmName : String} {cs : Chains} {base : Kernel}

/-- The kernel shows a footprint that the addresses go with. -/
def Agrees (kernel : σ → Kernel) (cs : Chains) (base : Kernel) (x : σ × Linked) : Prop :=
  ∃ f, Shows cs base f (kernel x.1) ∧ x.2.Matches f

theorem Works.event_agrees (hw : svc.Works registry kernel)
    (hcs : Chains.ofGuest vmName = .ok cs) (hclear : base.Clear cs) {x : σ × Linked}
    (hx : Agrees kernel cs base x) (a : Action) (now : Moment) :
    Agrees kernel cs base (svc.step registry vmName x (.event a now)) := by
  obtain ⟨f, hshows, hmatches⟩ := hx
  obtain ⟨s', hk, hhandle⟩ := hw.handle_kernel vmName a now x.1
  unfold Agrees step
  simp only [hhandle, Registry.addresses?]
  cases hfind : (registry x.1).find? vmName with
  | none => exact ⟨f, hshows, hmatches⟩
  | some d =>
    simp only [Option.bind_eq_bind, Option.bind_some]
    rw [← hk] at hshows
    cases hhost : d.hostIp with
    | none =>
      rw [Declaration.run_of_missing (.inl hhost)]
      exact ⟨f, hshows, hmatches⟩
    | some host =>
      cases hguest : d.privateIp with
      | none =>
        rw [Declaration.run_of_missing (.inr hguest)]
        exact ⟨f, hshows, hmatches⟩
      | some guest =>
        have haddr : d.Addressed vmName host guest :=
          ⟨by simpa using List.find?_some hfind, hhost, hguest⟩
        exact ⟨_, hw.drives.run_shows hcs hclear haddr hshows a,
          hmatches.after (p := d.planFor cs host guest) (Chains.proper_of_ofGuest hcs) a⟩

theorem Works.step_agrees (hw : svc.Works registry kernel)
    (hcs : Chains.ofGuest vmName = .ok cs) (hclear : base.Clear cs) {x : σ × Linked}
    (hx : Agrees kernel cs base x) (e : Step) :
    Agrees kernel cs base (svc.step registry vmName x e) := by
  cases e with
  | upsert d now =>
    obtain ⟨f, hshows, hmatches⟩ := hx
    exact ⟨f, (hw.change _ x.1).symm ▸ hshows, hmatches⟩
  | merge update now =>
    obtain ⟨f, hshows, hmatches⟩ := hx
    exact ⟨f, (hw.change _ x.1).symm ▸ hshows, hmatches⟩
  | event a now => exact hw.event_agrees hcs hclear hx a now

/-- **Through every history the kernel shows jumps for just these addresses.** -/
theorem Works.follow_agrees (hw : svc.Works registry kernel)
    (hcs : Chains.ofGuest vmName = .ok cs) {s : σ} (hclear : (kernel s).Clear cs)
    (steps : List Step) : Agrees kernel cs (kernel s) (svc.follow registry vmName steps s) := by
  induction steps using List.reverseRecOn with
  | nil => exact ⟨.empty, .of_clear hclear, .empty⟩
  | append_singleton before e ih =>
    unfold follow at *
    rw [List.foldl_append]
    exact hw.step_agrees hcs hclear ih e

/-- **A final reconnect makes the kernel what a first start of the stored declaration makes
    of it exactly when no jump is for an address that is not declared any more.** -/
theorem reconnect_converges_iff (hw : svc.Works registry kernel)
    (hcs : Chains.ofGuest vmName = .ok cs) {s : σ} (hclear : (kernel s).Clear cs)
    {steps : List Step} {d : Declaration} {host guest : Address}
    (hd : (registry (svc.follow registry vmName steps s).1).find? vmName = some d)
    (hhost : d.hostIp = some host) (hguest : d.privateIp = some guest) (now : Moment) :
    kernel ((svc.handle vmName .reconnect now).result (svc.follow registry vmName steps s).1).2
        = kernel (d.run svc.runner s .start)
      ↔ (svc.follow registry vmName steps s).2.Fits host guest := by
  have haddr : d.Addressed vmName host guest :=
    ⟨by simpa using List.find?_some hd, hhost, hguest⟩
  have hp : (d.planFor cs host guest).chains.Proper := Chains.proper_of_ofGuest hcs
  obtain ⟨f, hshows, hmatches⟩ := hw.follow_agrees hcs hclear steps
  obtain ⟨s', hk, hhandle⟩ := hw.handle_kernel vmName .reconnect now
    (svc.follow registry vmName steps s).1
  simp only [hd] at hhandle
  rw [← hk] at hshows
  have hreconnect := hw.drives.run_shows hcs hclear haddr hshows .reconnect
  have hstart := hw.drives.run_shows hcs hclear haddr (.of_clear hclear) .start
  rw [Footprint.empty_after_start hp] at hstart
  rw [hhandle]
  refine Iff.trans ?_ (hmatches.reconnect_iff hp)
  constructor
  · intro heq
    rw [heq] at hreconnect
    exact hreconnect.footprint_eq hstart
  · intro heq
    rw [heq] at hreconnect
    exact hreconnect.unique hstart

/-- Other ports take effect with a reconnect. -/
theorem reconnect_converges_spark :
    let x := inMemory.follow Prod.fst "spark"
      [.upsert { Declaration.spark ⟨192, 168, 1, 194⟩ with portMap := [] } default,
       .event .start default, .upsert (.spark ⟨192, 168, 1, 194⟩) default]
      ({}, Kernel.bare, 0)
    ∃ d, x.1.1.find? "spark" = some d ∧
      ((inMemory.handle "spark" .reconnect default).result x.1).2.2.1
        = (d.run inMemory.runner ({}, Kernel.bare, 0) .start).2.1 := by
  have hd : (inMemory.follow Prod.fst "spark"
      [.upsert { Declaration.spark ⟨192, 168, 1, 194⟩ with portMap := [] } default,
       .event .start default, .upsert (.spark ⟨192, 168, 1, 194⟩) default]
      ({}, Kernel.bare, 0)).1.1.find? "spark"
      = some { Declaration.spark ⟨192, 168, 1, 194⟩ with lastUpdated := some default } := by
    decide +kernel
  refine ⟨_, hd, ?_⟩
  exact (reconnect_converges_iff works_inMemory Chains.ofGuest_spark
    (s := ({}, Kernel.bare, 0)) Kernel.clear_spark hd rfl rfl default).2 (by decide +kernel)

/-- **A changed address does not**: the jumps for the old one stay, and the start of the new
    declaration ends at their chain. -/
theorem reconnect_keeps_old_jumps :
    let x := inMemory.follow Prod.fst "spark"
      [.upsert (.spark ⟨192, 168, 1, 194⟩) default, .event .start default,
       .upsert (.spark ⟨192, 168, 1, 195⟩) default]
      ({}, Kernel.bare, 0)
    ∃ d, x.1.1.find? "spark" = some d ∧
      ((inMemory.handle "spark" .reconnect default).result x.1).2.2.1
        ≠ (d.run inMemory.runner ({}, Kernel.bare, 0) .start).2.1 := by
  refine ⟨{ Declaration.spark ⟨192, 168, 1, 195⟩ with lastUpdated := some default }, ?_, ?_⟩
  · decide +kernel
  · refine ne_of_apply_ne (fun k => k.rules .nat "OUTPUT") ?_
    decide +kernel

end Service

end Hook

end GuestPorts
