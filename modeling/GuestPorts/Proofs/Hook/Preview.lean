/-
  GuestPorts/Proofs/Hook/Preview.lean
  ===================================
  **What is shown, what is written down and what is run** for an event are the same commands
  (`preview_audit_execution_agree`).

  Three programs put a batch together: the preview, which prints it with the program that the
  settings name; the hook, which writes it down with the program that its runner names; and
  the runner, which is called for its commands one by one.  All of them take the batch from
  the registry, so it matters what the registry is when the hook reads it: the event has been
  written down by then.
-/
import GuestPorts.Cli.Commands
import GuestPorts.Proofs.Batch.Calls
import GuestPorts.Proofs.Hook.Handling
import GuestPorts.Proofs.Hook.Records

namespace GuestPorts

/-! ### The preview -/

namespace Cli

variable {ε α : Type} {message : String} {causes : ε → List String} {step : Effect Host ε α}
  {t : Terminal} {a : α} {h : Host}

theorem onHost_of_ok (hstep : step.result t.host = (.ok a, h)) :
    (onHost message causes step).result t = (.ok a, { t with host := h }) := by
  apply Effect.wrap_of_ok
  unfold Effect.result at hstep
  unfold Effect.result Effect.within
  rw [hstep]

/-- Lines that are printed are the text that would be written down for them. -/
theorem result_printLines {lines : List String} (hne : lines ≠ []) (t : Terminal) :
    (printLines lines).result t
      = (.ok (), { t with output := t.output ++ Audit.commandsText lines }) := by
  induction lines generalizing t with
  | nil => exact absurd rfl hne
  | cons line rest ih =>
    have hprint : (printLine line).result t
        = (.ok (), { t with output := t.output ++ line ++ "\n" }) := rfl
    cases rest with
    | nil =>
      have hone : Audit.commandsText [line] = line ++ "\n" := by
        rw [← String.toList_inj]
        simp [Audit.commandsText, Text.joined, Text.join]
      refine (Effect.bind_of_ok hprint _).trans ?_
      rw [hone, ← String.append_assoc]
      rfl
    | cons next rest =>
      refine (Effect.bind_of_ok hprint _).trans ((ih (List.cons_ne_nil _ _) _).trans ?_)
      unfold Audit.commandsText
      simp only [Text.joined_cons_cons, String.append_assoc]

end Cli

theorem Batch.render_ne_nil {batch : Batch} (h : batch ≠ []) (program : String) :
    batch.render program ≠ [] := by
  simpa [Batch.render] using h

section Batch

variable {s : Settings} {r : Registry} {vmName : String} {d : Declaration} {a : Action}
  {batch : Batch} (hfound : r.find? vmName = some d) (ha : a.drivesRules = true)
  (hcompile : d.compile a = .ok batch)

include hfound

theorem Store.result_find_of_load {σ : Type} {store : Store σ} {x : σ}
    (hload : (store.load.result x).1 = .ok r) :
    (store.find vmName).result x = (.ok (some d), (store.load.result x).2) := by
  rw [result_find, hload, ← hfound]
  rfl

include ha hcompile

theorem Store.dispatch_of_load {σ : Type} {store : Store σ} {x : σ}
    (hload : (store.load.result x).1 = .ok r) :
    (store.dispatch vmName a).result x = (.ok (.batch batch), (store.load.result x).2) := by
  rw [dispatch_of_found ha (result_find_of_load hfound hload), settle, hcompile]
  rfl

/-- **The preview prints the batch**, with the program that the settings name. -/
theorem Cli.result_previewEvent {t : Cli.Terminal}
    (hload : (s.store.load.result t.host).1 = .ok r) :
    (previewEvent s vmName a).result t
      = (.ok (), { host := (s.store.load.result t.host).2,
                   output := t.output ++ Audit.commandsText (batch.render s.programLine) }) := by
  have hne := Declaration.ne_nil_of_compile ha hcompile
  have hdispatch := Store.dispatch_of_load hfound ha hcompile hload
  refine (Effect.bind_of_ok (onHost_of_ok hdispatch) _).trans ?_
  cases batch with
  | nil => exact absurd rfl hne
  | cons c rest => exact result_printLines (Batch.render_ne_nil hne _) _

theorem Cli.output_previewEvent {h : Host} (hload : (s.store.load.result h).1 = .ok r) :
    ((previewEvent s vmName a).result { host := h }).2.output
      = Audit.commandsText (batch.render s.programLine) := by
  rw [result_previewEvent (t := { host := h }) hfound ha hcompile hload]
  exact String.empty_append

end Batch

/-! ### The hook -/

namespace Settings

/-- The service for events, with any runner that names the program as the settings do. -/
def serviceWith (s : Settings) (run : Command → Effect Host RunnerError Unit) :
    Hook.Service Host :=
  { s.hookService with runner := { s.runner with run } }

/-- The host on which the batch of an event begins to be carried out. -/
def begun (s : Settings) (vmName : String) (a : Action) (now : Moment) (batch : Batch)
    (h : Host) : Host :=
  s.hookService.written batch (s.store.load.result (s.hookService.logged vmName a now h)).2

/-- Writing down the event succeeds, and so does writing down its commands. -/
structure WritesRecords (s : Settings) (vmName : String) (a : Action) (now : Moment)
    (batch : Batch) (h : Host) : Prop where
  event : ((s.audit.recordEvent vmName a now).result h).1 = .ok ()
  commands :
    ((s.audit.recordCommands (batch.render s.programLine)).result
      (s.store.load.result (s.hookService.logged vmName a now h)).2).1 = .ok ()

/-- The log of events is not the registry's document, and no directory has the place of the
    document's lock. -/
structure LogApart (s : Settings) (d : Disk) : Prop where
  document : d.Apart s.eventsPath s.storePath
  lock : d.hasDirectory (Path.lockBeside s.storePath) = false

variable {s : Settings} {run : Command → Effect Host RunnerError Unit} {r : Registry}
  {vmName : String} {d : Declaration} {a : Action} {batch : Batch} {now : Moment} {h : Host}

/-! What the parts of the service do to a host is what they do to its disk. -/

theorem fst_load (s : Settings) (h : Host) :
    (s.store.load.result h).1 = ((Store.inFile s.storePath).load.result h.disk).1 :=
  Effect.fst_within _ _ (Store.inFile s.storePath).load h

theorem recordEvent_eq_ok (hevent : ((s.audit.recordEvent vmName a now).result h).1 = .ok ()) :
    ((Audit.inFiles s.eventsPath s.commandsPath).recordEvent vmName a now).result h.disk
      = (.ok (), (s.hookService.logged vmName a now h).disk) :=
  Effect.ok_of_within (fun _ _ => rfl) hevent

theorem recordCommands_eq_ok
    (hcommands : ((s.audit.recordCommands (batch.render s.programLine)).result h).1 = .ok ()) :
    ((Audit.inFiles s.eventsPath s.commandsPath).recordCommands
        (batch.render s.programLine)).result h.disk
      = (.ok (), (s.hookService.written batch h).disk) :=
  Effect.ok_of_within (fun _ _ => rfl) hcommands

/-- **The registry is as it was when the event has been written down.** -/
theorem load_logged (hfound : r.find? vmName = some d)
    (hstored : (s.store.load.result h).1 = .ok r) (hrecords : s.WritesRecords vmName a now batch h)
    (hapart : s.LogApart (s.hookService.logged vmName a now h).disk) :
    (s.store.load.result (s.hookService.logged vmName a now h)).1 = .ok r := by
  have hne : r ≠ {} := by
    rintro rfl
    cases hfound
  have hrecord := recordEvent_eq_ok hrecords.event
  rw [fst_load] at hstored ⊢
  exact Store.load_of_recorded hstored hne hrecord hapart.document hapart.lock

/-- **The commands are in their file** when the batch begins to be carried out. -/
theorem bytesAt_begun (hrecords : s.WritesRecords vmName a now batch h) :
    (s.begun vmName a now batch h).disk.bytesAt s.commandsPath
      = .ok (Text.encode (Audit.commandsText (batch.render s.programLine)).toList) :=
  Audit.bytesAt_recordCommands (recordCommands_eq_ok hrecords.commands)

end Settings

/-- **What is shown, what is written down and what is run are one batch.**  The preview prints
    the text that is in the file of commands when the batch begins to be carried out, and that
    is all the hook does in the mode that only records.  In the mode that applies, the runner is
    called for commands of the batch in their order, for all of them if none fails; and the
    file keeps its text, unless one of the calls changes it.

    The event is written down before the registry is read, so its log must not be in the
    way. -/
theorem preview_audit_execution_agree (s : Settings) (run : Command → Effect Host RunnerError Unit)
    {r : Registry} {vmName : String} {d : Declaration} {a : Action} {batch : Batch}
    (hfound : r.find? vmName = some d) (ha : a.drivesRules = true)
    (hcompile : d.compile a = .ok batch)
    {t : Cli.Terminal} (hshown : (s.store.load.result t.host).1 = .ok r)
    {h : Host} (hstored : (s.store.load.result h).1 = .ok r) {now : Moment}
    (hrecords : s.WritesRecords vmName a now batch h)
    (hapart : s.LogApart (s.hookService.logged vmName a now h).disk) :
    let runner := (s.serviceWith run).runner
    let text := Audit.commandsText (batch.render s.programLine)
    let shown := (Cli.previewEvent s vmName a).result t
    let begun := s.begun vmName a now batch h
    let handled := ((s.serviceWith run).handle vmName a now).result h
    (shown.1 = .ok () ∧ shown.2.output = t.output ++ text) ∧
      begun.disk.bytesAt s.commandsPath = .ok (Text.encode text.toList) ∧
      (s.mode = .record → handled = (.ok (.recorded batch), begun)) ∧
      (s.mode = .apply →
        let ran := batch.execute runner begun
        let called := (batch.execute runner.recorded (begun, [])).2.2
        handled = (.ok (.applied ran.1), ran.2) ∧
          called.Sublist batch ∧ (ran.1.failures = [] → called = batch) ∧
          ((∀ call ∈ batch.calls runner begun,
              ((run call.1).result call.2).2.disk.bytesAt s.commandsPath
                = call.2.disk.bytesAt s.commandsPath) →
            ran.2.disk.bytesAt s.commandsPath = .ok (Text.encode text.toList))) := by
  intro runner text shown begun handled
  have hpreview := Cli.result_previewEvent hfound ha hcompile hshown
  have hload := Settings.load_logged hfound hstored hrecords hapart
  -- only the runner is another one, so store and audit are those of the settings
  have hfind : ((s.serviceWith run).store.find vmName).result
      ((s.serviceWith run).logged vmName a now h) = (.ok (some d), _) :=
    Store.result_find_of_load hfound hload
  have hhandled := Hook.Service.handle_of_batch hfind ha hcompile
  have hbegun := Settings.bytesAt_begun hrecords
  refine ⟨⟨congrArg Prod.fst hpreview, congrArg (·.2.output) hpreview⟩, hbegun, ?record, ?apply⟩
  case record =>
    intro hmode
    exact hhandled.trans (Hook.Service.carryOut_of_record hmode batch _)
  case apply =>
    intro hmode
    refine ⟨hhandled.trans (Hook.Service.carryOut_of_apply hmode batch _),
      Batch.calls_sublist runner batch begun, Batch.calls_of_success, ?_⟩
    intro hcalls
    exact Batch.kept_of_calls
      (P := fun x : Host => x.disk.bytesAt s.commandsPath = .ok (Text.encode text.toList))
      (fun call hcall hkept => (hcalls call hcall).trans hkept) hbegun

/-! ### One guest whose ports are closed -/

namespace Lone

def declaration : Declaration where
  vmName := "spark"
  hostIp := some ⟨10, 0, 0, 1⟩
  privateIp := some ⟨10, 0, 0, 2⟩

def document : List UInt8 :=
  Text.encode ("\x7b\"configs\":[\x7b\"vm_name\":\"spark\",\"host_ip\":\"10.0.0.1\","
    ++ "\"private_ip\":\"10.0.0.2\"\x7d]\x7d").toList

def teardown : Batch := (declaration.compile .stopped).toOption.getD []

def moment : Moment := ⟨⟨2024, 3, 9⟩, 14, 5, 0, 0⟩

/-- The document is at a place, and there is a filter program that writes to the file of
    commands. -/
def host (store : Place) : Host where
  disk.nodes :=
    [(store, .file document 0o644),
      (["log"], .directory),
      (["bin"], .directory),
      (["bin", "sh"], .file (Tool.image "sh") 0o755),
      (["scribble"], .file
        (Text.encode "#!/bin/sh\necho done > log/kvmfwd-commands.log\n".toList) 0o755)]

def settings : Settings where
  storePath := "store.json"
  logDir := "log"

theorem load_host {s : Settings} (hs : s.storePath = "store.json") :
    (s.store.load.result (host ["store.json"])).1 = .ok { entries := [declaration] } := by
  rw [Settings.fst_load, hs]
  exact Except.eq_ok_of_toOption (by decide +kernel)

theorem find_declaration :
    ({ entries := [declaration] } : Registry).find? "spark" = some declaration := by
  decide +kernel

theorem compile_stopped : declaration.compile .stopped = .ok teardown :=
  Except.eq_ok_of_toOption (by decide +kernel)

end Lone

open Lone in
/-- A runner that does nothing is called for all commands. -/
theorem preview_audit_execution_agree_lone :
    let service := settings.serviceWith fun _ => pure ()
    let h := host ["store.json"]
    ((service.handle "spark" .stopped moment).result h).2.disk.bytesAt settings.commandsPath
        = .ok (Text.encode
            ((Cli.previewEvent settings "spark" .stopped).result { host := h }).2.output.toList) ∧
      (teardown.execute service.runner.recorded
        (settings.begun "spark" .stopped moment teardown h, [])).2.2 = teardown := by
  have hload := load_host (s := settings) rfl
  have hrecords : settings.WritesRecords "spark" .stopped moment teardown (host ["store.json"]) :=
    { event := Except.eq_ok_of_toOption (by decide +kernel)
      commands := Except.eq_ok_of_toOption (by decide +kernel) }
  have hapart : settings.LogApart
      (settings.hookService.logged "spark" .stopped moment (host ["store.json"])).disk :=
    { document := by decide +kernel
      lock := by decide +kernel }
  obtain ⟨-, -, -, happly⟩ :=
    preview_audit_execution_agree settings (fun _ => pure ()) find_declaration rfl
      compile_stopped (t := { host := host ["store.json"] }) hload hload hrecords hapart
  obtain ⟨hhandled, -, hcalled, hkept⟩ := happly rfl
  have hafter := congrArg Prod.snd hhandled
  refine ⟨?file, hcalled ?success⟩
  case file =>
    rw [Cli.output_previewEvent find_declaration rfl compile_stopped hload, hafter]
    exact hkept fun _ _ => rfl
  case success => decide +kernel

/-- These settings are valid, both records of the event are written, and what is in the file of
    commands when the event has been handled is not what the preview prints. -/
structure Settings.Disagrees (s : Settings) (h : Host) (found : Option (List UInt8)) : Prop where
  valid : s.validate = .ok ()
  loaded : (s.store.load.result h).1 = .ok { entries := [Lone.declaration] }
  records : s.WritesRecords "spark" .stopped Lone.moment Lone.teardown h
  shown : ((Cli.previewEvent s "spark" .stopped).result { host := h }).2.output
    = Audit.commandsText (Lone.teardown.render s.programLine)
  bytesAt_eq : (((s.hookService.handle "spark" .stopped Lone.moment).result h).2.disk.bytesAt
    s.commandsPath).toOption = found
  found_ne : found ≠ some (Text.encode
    (Audit.commandsText (Lone.teardown.render s.programLine)).toList)

namespace Lone

/-- The log of events is the document. -/
def logIsStore : Settings :=
  { settings with storePath := "log/kvmfwd-events.log", mode := .record }

/-- The log's directory is where the document's lock would be. -/
def logAtLock : Settings := { settings with logDir := "store.json.lock", mode := .record }

/-- The filter program changes the file of commands. -/
def scribbling : Settings := { settings with filterProgram := "./scribble" }

theorem disagrees_logIsStore :
    logIsStore.Disagrees (host ["log", "kvmfwd-events.log"]) none := by
  have hload : (logIsStore.store.load.result (host ["log", "kvmfwd-events.log"])).1
      = .ok { entries := [declaration] } := Except.eq_ok_of_toOption (by decide +kernel)
  exact
    { valid := Except.eq_ok_of_toOption (by decide +kernel)
      loaded := hload
      records :=
        { event := Except.eq_ok_of_toOption (by decide +kernel)
          commands := Except.eq_ok_of_toOption (by decide +kernel) }
      shown := Cli.output_previewEvent find_declaration rfl compile_stopped hload
      bytesAt_eq := by decide +kernel
      found_ne := nofun }

theorem disagrees_logAtLock : logAtLock.Disagrees (host ["store.json"]) none where
  valid := Except.eq_ok_of_toOption (by decide +kernel)
  loaded := load_host rfl
  records :=
    { event := Except.eq_ok_of_toOption (by decide +kernel)
      commands := Except.eq_ok_of_toOption (by decide +kernel) }
  shown := Cli.output_previewEvent find_declaration rfl compile_stopped (load_host rfl)
  bytesAt_eq := by decide +kernel
  found_ne := nofun

theorem disagrees_scribbling :
    scribbling.Disagrees (host ["store.json"]) (some (Text.encode "done\n".toList)) where
  valid := Except.eq_ok_of_toOption (by decide +kernel)
  loaded := load_host rfl
  records :=
    { event := Except.eq_ok_of_toOption (by decide +kernel)
      commands := Except.eq_ok_of_toOption (by decide +kernel) }
  shown := Cli.output_previewEvent find_declaration rfl compile_stopped (load_host rfl)
  bytesAt_eq := by decide +kernel
  found_ne := by
    intro h
    have htext := String.toList_inj.1 (Text.encode_injective (Option.some.inj h))
    exact absurd htext (by decide +kernel)

end Lone

open Lone in
/-- **In three ways the file of commands is not what is shown**: the line of the event makes the
    document unreadable, the directory of the log is in the way of the lock, or the runner
    changes the file. -/
theorem preview_and_file_disagree :
    logIsStore.Disagrees (host ["log", "kvmfwd-events.log"]) none ∧
      logAtLock.Disagrees (host ["store.json"]) none ∧
      scribbling.Disagrees (host ["store.json"]) (some (Text.encode "done\n".toList)) :=
  ⟨disagrees_logIsStore, disagrees_logAtLock, disagrees_scribbling⟩

end GuestPorts
