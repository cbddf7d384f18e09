/-
  GuestPorts/Proofs/Hook/Reading.lean
  ===================================
  **What the file of commands says about the batch**: all of it, unless an interface has a
  blank or a line feed in its name (`Hook.Service.commands_read_back_iff`).

  The file shows the batch as it was given, and nothing that happens later in the event changes
  it.  So what can be read back from it depends on the words of the commands alone.  The name
  of an interface is kept as it was declared and gets into a command as it is
  (`Hook.Service.broken_interfaces_mislead`).
-/
import GuestPorts.Proofs.Batch.Words
import GuestPorts.Proofs.Hook.Handling
import GuestPorts.Proofs.Hook.Records

namespace GuestPorts.Hook.Service

variable {σ : Type} {svc : Service σ} {get : σ → Disk} {set : Disk → σ → σ}
  {events commands vmName : String} {d : Declaration} {a : Action} {batch : Batch} {now : Moment}
  {x y : σ}

section Written

variable (hget : ∀ d x, get (set d x) = d)
  (haudit : svc.audit = (Audit.inFiles events commands).within get set)
  (hrun : svc.Spares get commands)
  (hfind : (svc.store.find vmName).result (svc.logged vmName a now x) = (.ok (some d), y))
  (ha : a.drivesRules = true) (hcompile : d.compile a = .ok batch)
  (hwritten : ((svc.audit.recordCommands (batch.render svc.runner.program)).result y).1 = .ok ())

include hget haudit hrun hfind ha hcompile hwritten

/-- The file of commands behind an event has the lines of the batch. -/
theorem textAt_handle :
    (get ((svc.handle vmName a now).result x).2).textAt commands
      = .ok (Audit.commandsText (batch.render svc.runner.program)) := by
  have hwrite : ((Audit.inFiles events commands).recordCommands
      (batch.render svc.runner.program)).result (get y) = (.ok (), get (svc.written batch y)) := by
    unfold written
    rw [haudit] at hwritten ⊢
    exact Effect.ok_of_within hget hwritten
  have hbytes := Audit.bytesAt_recordCommands hwrite
  rw [handle_of_batch hfind ha hcompile]
  exact Disk.textAt_of_bytesAt (kept_of_written (fun hmode => hrun hmode _) hbytes)

/-- **The commands of an event can be read back from their file if and only if** no rule names
    an interface with a blank or a line feed in the name, and the program is on one line.  Every
    line of the file is then a command, and the words of the line are those of the program and
    the arguments of the command. -/
theorem commands_read_back_iff :
    ∃ text, (get ((svc.handle vmName a now).result x).2).textAt commands = .ok text ∧
      (batch.ReadsBack svc.runner.program text ↔
        '\n' ∉ svc.runner.program.toList ∧
          (a = .stopped ∨ d.forwards = [] ∨ ∀ w ∈ d.interface, Text.Unbroken w)) := by
  refine ⟨_, textAt_handle hget haudit hrun hfind ha hcompile hwritten, ?_⟩
  rw [Batch.readsBack_commandsText_iff (Declaration.ne_nil_of_compile ha hcompile),
    Declaration.unbroken_compile_iff ha hcompile]

end Written

/-! ### One guest and its interface -/

namespace Bridged

def moment : Moment := ⟨⟨2024, 3, 9⟩, 14, 5, 0, 0⟩

/-- One port of a guest is forwarded, and accepted through this interface only. -/
def guest (interface : String) : Declaration where
  vmName := "spark"
  portMap := [⟨1100, 3000, .tcp⟩]
  hostIp := some ⟨10, 0, 0, 1⟩
  privateIp := some ⟨10, 0, 0, 2⟩
  interface := some interface
  lastUpdated := some moment

def commandsFor (interface : String) : Batch :=
  ((guest interface).planFor (Chains.named "spark") ⟨10, 0, 0, 1⟩ ⟨10, 0, 0, 2⟩).start

/-- Declarations are in memory, and nothing is run. -/
def service : Service (Registry × Disk) where
  store := Store.inMemory.within Prod.fst fun r x => (r, x.2)
  runner := { program := "sudo iptables", run := fun _ => pure () }
  audit := (Audit.inFiles "log/events" "log/commands").within Prod.snd fun d x => (x.1, d)
  mode := .record

/-- What the store makes of the declaration. -/
def declared (interface : String) : Except StoreError Unit × Registry × Disk :=
  (service.store.upsert (guest interface) moment).result ({}, {})

def registry (interface : String) : Registry where
  entries := [guest interface]
  lastUpdated := some moment

theorem compile_start (interface : String) :
    (guest interface).compile .start = .ok (commandsFor interface) := by
  have haddressed : (guest interface).Addressed "spark" ⟨10, 0, 0, 1⟩ ⟨10, 0, 0, 2⟩ :=
    ⟨rfl, rfl, rfl⟩
  exact Declaration.compile_of_plan (haddressed.plan_eq Chains.ofGuest_spark) .start

/-- **Any interface is accepted.** -/
theorem declared_eq (interface : String) :
    declared interface = (.ok (), registry interface, {}) := by
  have hname : (guest interface).vmName = "spark" := rfl
  have hupsert : ({} : Registry).upsert (guest interface) moment = .ok (registry interface) := by
    simp only [Registry.upsert, Registry.checkUnaliased, hname, Chains.ofGuest_spark]
    rfl
  simp only [declared, service, Store.upsert, Store.within, Effect.within, Store.inMemory,
    Effect.result, hupsert]
  rfl

theorem find_guest (interface : String) :
    let logged := service.logged "spark" .start moment (declared interface).2
    (service.store.find "spark").result logged = (.ok (some (guest interface)), logged) := by
  intro logged
  have hload : service.store.load.result logged = (.ok (registry interface), logged) := by
    have hkept : logged.1 = (declared interface).2.1 := rfl
    have hshown : service.store.load.result logged = (.ok logged.1, logged) := rfl
    rw [hshown, hkept, declared_eq]
  rw [Store.result_find, hload]
  rfl

end Bridged

open Bridged in
/-- An interface with an ordinary name. -/
theorem commands_read_back_virbr0 :
    ∃ text,
      ((service.handle "spark" .start moment).result (declared "virbr0").2).2.2.textAt
          "log/commands" = .ok text ∧
        (commandsFor "virbr0").ReadsBack service.runner.program text := by
  obtain ⟨text, htext, hread⟩ :=
    commands_read_back_iff (fun _ _ => rfl) rfl nofun
      (find_guest "virbr0") rfl (compile_start "virbr0")
      (Except.eq_ok_of_toOption (by decide +kernel))
  exact ⟨text, htext, hread.2 (by decide +kernel)⟩

namespace Bridged

/-- The store accepts a declaration with this interface, its rules are compiled and written
    down, and the file does not say which commands they are. -/
structure Misread (interface : String) : Prop where
  accepted : (declared interface).1 = .ok ()
  compiled : (guest interface).compile .start = .ok (commandsFor interface)
  misread : ∃ text,
    ((service.handle "spark" .start moment).result (declared interface).2).2.2.textAt
        "log/commands" = .ok text ∧
      ¬(commandsFor interface).ReadsBack service.runner.program text

theorem misread_of_broken {interface : String} (hbroken : ¬Text.Unbroken interface)
    (hwritten : ((service.audit.recordCommands
      ((commandsFor interface).render service.runner.program)).result
        (service.logged "spark" .start moment (declared interface).2)).1 = .ok ()) :
    Misread interface where
  accepted := congrArg Prod.fst (declared_eq interface)
  compiled := compile_start interface
  misread := by
    have hcompile := compile_start interface
    refine ⟨_, textAt_handle (fun _ _ => rfl) rfl nofun (find_guest interface) rfl hcompile
      hwritten, ?_⟩
    rw [Batch.readsBack_commandsText_iff (Declaration.ne_nil_of_compile rfl hcompile),
      Declaration.unbroken_compile_iff rfl hcompile]
    rintro ⟨-, hstopped | hforwards | hinterface⟩
    · cases hstopped
    · cases hforwards
    · exact hbroken (hinterface interface rfl)

end Bridged

open Bridged in
/-- **Two interfaces that are not read back**: the words behind a blank are taken for arguments
    of the rule, and those behind a line feed for another call. -/
theorem broken_interfaces_mislead : Misread "virbr0 -j DROP" ∧ Misread "virbr0\niptables" :=
  ⟨misread_of_broken (by decide +kernel) (Except.eq_ok_of_toOption (by decide +kernel)),
    misread_of_broken (by decide +kernel) (Except.eq_ok_of_toOption (by decide +kernel))⟩

end GuestPorts.Hook.Service
