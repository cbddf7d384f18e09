/-
  GuestPorts/Proofs/Hook/Log.lean
  ===============================
  **What the log of events says about the events that were handled**
  (`Settings.log_lines_iff`).

  Handling an event writes its line behind the log first of all, and nothing that is done later
  changes the log: reading the registry makes sure that a lock is there, and the commands go to
  a file of another name.  Once the log is there, no event can fail to be written down.  So the
  log is the lines of all events, one behind the other.  Guest and action stand in a line as
  they were announced, and a line feed in one of them ends the line.
-/
import GuestPorts.Proofs.Disk.Contents
import GuestPorts.Proofs.Hook.Preview
import GuestPorts.Proofs.Text.Decimal

namespace GuestPorts

open Effect (Keeps)

/-! ### Announced events and their lines -/

/-- What the hypervisor announces: a guest, a word for what happens to it, and when. -/
structure Announcement where
  vmName : String
  word : String
  moment : Moment
  deriving DecidableEq, Repr

theorem Action.word_parse (raw : String) : (parse raw).word = Text.trimmed raw := by
  have htable : ∀ e ∈ table, e.2.word = e.1 := by decide
  unfold parse
  simp only
  cases hlookup : table.lookup (Text.trimmed raw) with
  | none => rfl
  | some a =>
    obtain ⟨_, _, hsplit, -⟩ := List.lookup_eq_some_iff.1 hlookup
    apply htable (Text.trimmed raw, a)
    rw [hsplit]
    simp

namespace Announcement

def action (e : Announcement) : Action := .parse e.word

/-- The line that is due to an event. -/
def line (e : Announcement) : String :=
  "LIBVIRT_HOOK: " ++ e.moment.textToSecond ++ " Event received - Domain: " ++ e.vmName
    ++ ", Action: " ++ Text.trimmed e.word

theorem eventLine_eq (e : Announcement) : eventLine e.vmName e.action e.moment = e.line := by
  unfold eventLine line action
  rw [Action.word_parse]

/-- Guest and action have no line feed. -/
def OnOneLine (e : Announcement) : Prop :=
  '\n' ∉ e.vmName.toList ∧ '\n' ∉ (Text.trimmed e.word).toList

instance (e : Announcement) : Decidable e.OnOneLine :=
  inferInstanceAs (Decidable (_ ∧ _))

theorem notMem_textToSecond (t : Moment) : '\n' ∉ t.textToSecond.toList := by
  have hpadded : ∀ width n, '\n' ∉ Text.padded width n := by
    intro width n h
    exact absurd (Text.isDigit_of_mem_padded h) (by decide)
  have hyear : '\n' ∉ Moment.yearChars t.date.year := by
    unfold Moment.yearChars
    split_ifs <;> simp [hpadded]
  simp [Moment.textToSecond, Moment.secondsChars, hyear, hpadded]

theorem notMem_line_iff (e : Announcement) : '\n' ∉ e.line.toList ↔ e.OnOneLine := by
  have hprogram : '\n' ∉ "LIBVIRT_HOOK: ".toList := by simp
  have hguest : '\n' ∉ " Event received - Domain: ".toList := by simp
  have haction : '\n' ∉ ", Action: ".toList := by simp
  unfold line OnOneLine
  simp only [String.toList_append, List.mem_append, not_or]
  constructor
  · rintro ⟨⟨⟨-, hname⟩, -⟩, hword⟩
    exact ⟨hname, hword⟩
  · rintro ⟨hname, hword⟩
    exact ⟨⟨⟨⟨⟨hprogram, notMem_textToSecond e.moment⟩, hguest⟩, hname⟩, haction⟩, hword⟩

/-- The lines of events, each ended. -/
def logOf (events : List Announcement) : List Char :=
  events.flatMap fun e => e.line.toList ++ ['\n']

theorem lines_logOf (events : List Announcement) :
    Text.lines (logOf events) = (events.flatMap fun e => Text.lines e.line.toList) ++ [[]] := by
  induction events with
  | nil => rfl
  | cons e rest ih =>
    have hsplit : Text.lines (logOf (e :: rest))
        = Text.lines e.line.toList ++ Text.lines (logOf rest) := by
      unfold logOf Text.lines
      rw [List.flatMap_cons, List.append_assoc, List.singleton_append, Text.splitAt_append]
    rw [hsplit, ih, List.flatMap_cons, List.append_assoc]

theorem encode_logOf_cons (e : Announcement) (rest : List Announcement) :
    Text.encode (logOf (e :: rest))
      = Text.encode (e.line.toList ++ ['\n']) ++ Text.encode (logOf rest) := by
  simp [logOf, Text.encode]

/-- **Every line of a log is an event** exactly if every event is on one line. -/
theorem lines_logOf_eq_iff (events : List Announcement) :
    Text.lines (logOf events) = events.map (·.line.toList) ++ [[]]
      ↔ ∀ e ∈ events, e.OnOneLine := by
  constructor
  · intro h e he
    have hline : e.line.toList ∈ Text.lines (logOf events) :=
      h ▸ List.mem_append_left _ (List.mem_map_of_mem he)
    exact e.notMem_line_iff.1 (Text.notMem_of_mem_splitAt hline)
  · intro h
    have hpieces : ∀ line ∈ events.map (·.line.toList), '\n' ∉ line :=
      List.forall_mem_map.2 fun e he => e.notMem_line_iff.2 (h e he)
    have hlines := Text.flatMap_splitAt_of_notMem hpieces
    rw [List.flatMap_map] at hlines
    rw [lines_logOf]
    exact congrArg (· ++ [[]]) hlines

/-- An event whose line reads like those of two others. -/
def posingAs (first second : Announcement) : Announcement where
  vmName := first.vmName ++ ", Action: " ++ Text.trimmed first.word ++ "\n"
    ++ "LIBVIRT_HOOK: " ++ second.moment.textToSecond ++ " Event received - Domain: "
    ++ second.vmName
  word := second.word
  moment := first.moment

theorem line_posingAs (first second : Announcement) :
    (posingAs first second).line = first.line ++ "\n" ++ second.line := by
  unfold line posingAs
  simp only [String.append_assoc]

/-- **Any two events can be put into a log by one.** -/
theorem logOf_posingAs (first second : Announcement) :
    logOf [posingAs first second] = logOf [first, second] := by
  have hfeed : "\n".toList = ['\n'] := rfl
  unfold logOf
  simp only [List.flatMap_cons, List.flatMap_nil, line_posingAs, String.toList_append,
    List.append_assoc]
  rw [hfeed]

end Announcement

/-! ### Handling one event after the other -/

namespace Hook.Service

variable {σ : Type}

/-- The state behind some events, handled in their order.  An event that fails does not keep
    the next one from being handled. -/
def handleAll (svc : Service σ) : List Announcement → σ → σ
  | [], x => x
  | e :: rest, x => handleAll svc rest ((svc.handle e.vmName e.action e.moment).result x).2

end Hook.Service

/-! ### What the parts of a service do to the log -/

theorem Store.keeps_bytesAt_load (path other : String) {content : List UInt8} :
    Keeps (fun d => d.bytesAt other = .ok content) (inFile path).load := by
  have hlock : Keeps (fun d : Disk => d.bytesAt other = .ok content) (takeLock path) := by
    intro d hd
    by_cases hdirectory : d.hasDirectory (Path.directory path) = true
    · rw [takeLock_of_directory hdirectory]
      exact (Disk.keeps_bytesAt_touch _).wrap _ d hd
    · rw [takeLock_of_missing (Bool.eq_false_iff.2 hdirectory)]
      exact hd
  intro d hd
  by_cases hdirectory : d.hasDirectory (Path.directory path) = true
  · rw [load_of_directory hdirectory]
    exact hlock.bind (fun _ => .asks _) d hd
  · rw [load_of_missing (Bool.eq_false_iff.2 hdirectory)]
    exact hd

namespace Audit

variable {d : Disk} {events commands name name' vmName : String} {a : Action} {now : Moment}
  {content : List UInt8}

theorem keeps_bytesAt_recordCommands (hevents : Path.EndsIn events name)
    (hcommands : Path.EndsIn commands name') (hne : name ≠ name') (lines : List String) :
    Keeps (fun d => d.bytesAt events = .ok content)
      ((inFiles events commands).recordCommands lines) := by
  have hwrite : Keeps (fun d => d.bytesAt events = .ok content)
      (Disk.writeText commands (commandsText lines)) :=
    Disk.keeps_bytesAt_revise hevents hcommands hne _
  refine Keeps.wrap ?_ _
  cases Path.parent? commands with
  | none => exact hwrite
  | some directory => exact (Disk.keeps_bytesAt_makeDirectories directory).bind fun _ => hwrite

def entry (vmName : String) (a : Action) (now : Moment) : List UInt8 :=
  Text.encode (eventLine vmName a now ++ "\n").toList

theorem entry_eq (e : Announcement) :
    entry e.vmName e.action e.moment = Text.encode (e.line.toList ++ ['\n']) := by
  unfold entry
  rw [e.eventLine_eq, String.toList_append]
  rfl

/-- **Once the log is there, events cannot fail to be written down.** -/
theorem recordEvent_of_bytesAt (hevents : Path.EndsIn events name)
    (hlog : d.bytesAt events = .ok content) :
    ∃ d', ((inFiles events commands).recordEvent vmName a now).result d = (.ok (), d') ∧
      d'.bytesAt events = .ok (content ++ entry vmName a now) := by
  obtain ⟨place, mode, hleads, hat⟩ := Disk.exists_leadsTo_of_bytesAt hevents hlog
  have hput := hleads.put hleads.place_ne_nil hleads.notDirectory
    (content ++ entry vmName a now) mode
  have happend : (Disk.appendText events (eventLine vmName a now ++ "\n")).result d
      = (.ok (), d.put place (.file (content ++ entry vmName a now) mode)) :=
    hleads.revise_of_file hat _
  refine ⟨d.put place (.file (content ++ entry vmName a now) mode), Effect.wrap_of_ok ?_,
    hput.bytesAt_eq_ok (Disk.at?_put hleads.place_ne_nil _)⟩
  cases hparent : Path.parent? events with
  | none => exact happend
  | some directory =>
    exact (Effect.bind_of_ok (Disk.makeDirectories_of_bytesAt hlog hparent) _).trans happend

/-- **The first event makes the log**, and its line is all that is in it. -/
theorem bytesAt_of_first {d' : Disk}
    (h : ((inFiles events commands).recordEvent vmName a now).result d = (.ok (), d'))
    (habsent : ∀ place, d'.LeadsTo events place → d.at? place = none) :
    d'.bytesAt events = .ok (entry vmName a now) := by
  obtain ⟨d₁, -, hfiles, hwrite⟩ := ok_of_onFile h
  obtain ⟨place, bytes, mode, hleads, hd'⟩ := Disk.of_revise_eq_ok hwrite
  have hafter : d'.LeadsTo events place := by
    rw [hd']
    exact hleads.put hleads.place_ne_nil hleads.notDirectory _ _
  have hbefore := habsent place hafter
  have hnone : d₁.at? place = none := by
    cases hat : d₁.at? place with
    | none => rfl
    | some node =>
      cases node with
      | directory => exact absurd hat hleads.notDirectory
      | file content mode =>
        rw [hfiles hat] at hbefore
        cases hbefore
  have hmade : (Disk.appendText events (eventLine vmName a now ++ "\n")).result d₁
      = (.ok (), d₁.put place (.file ([] ++ entry vmName a now) Disk.plainMode)) :=
    hleads.revise_of_none hnone _
  rw [List.nil_append] at hmade
  have hdisk : d' = d₁.put place (.file (entry vmName a now) Disk.plainMode) :=
    congrArg Prod.snd (hwrite.symm.trans hmade)
  have hat : d'.at? place = some (.file (entry vmName a now) Disk.plainMode) := by
    rw [hdisk]
    exact Disk.at?_put hleads.place_ne_nil _
  exact hafter.bytesAt_eq_ok hat

end Audit

/-! ### The log of the hook -/

namespace Settings

theorem endsIn_eventsPath (s : Settings) : Path.EndsIn s.eventsPath "kvmfwd-events.log" :=
  Path.endsIn_append _ (by simp) (by simp) (by simp) (by simp)

theorem endsIn_commandsPath (s : Settings) : Path.EndsIn s.commandsPath "kvmfwd-commands.log" :=
  Path.endsIn_append _ (by simp) (by simp) (by simp) (by simp)

/-- The first event is written down, in a file that was not there. -/
structure OpensLog (s : Settings) (e : Announcement) (h : Host) : Prop where
  recorded : ((s.audit.recordEvent e.vmName e.action e.moment).result h).1 = .ok ()
  absent : ∀ place,
    (s.hookService.logged e.vmName e.action e.moment h).disk.LeadsTo s.eventsPath place →
      h.disk.at? place = none

variable {s : Settings} {run : Command → Effect Host RunnerError Unit} {content : List UInt8}
  {h : Host}

section Handled

variable (hrun : (s.serviceWith run).Spares Host.disk s.eventsPath)

include hrun

/-- Nothing that is done behind the line of an event changes the log. -/
theorem bytesAt_of_logged {e : Announcement}
    (hlog : (s.hookService.logged e.vmName e.action e.moment h).disk.bytesAt s.eventsPath
      = .ok content) :
    (((s.serviceWith run).handle e.vmName e.action e.moment).result h).2.disk.bytesAt s.eventsPath
      = .ok content := by
  have hload : Keeps (fun h : Host => h.disk.bytesAt s.eventsPath = .ok content)
      (s.serviceWith run).store.load :=
    (Store.keeps_bytesAt_load s.storePath s.eventsPath).within fun _ _ => rfl
  have hcommands : ∀ lines, Keeps (fun h : Host => h.disk.bytesAt s.eventsPath = .ok content)
      ((s.serviceWith run).audit.recordCommands lines) := fun lines =>
    (Audit.keeps_bytesAt_recordCommands s.endsIn_eventsPath s.endsIn_commandsPath (by simp)
      lines).within fun _ _ => rfl
  exact Hook.Service.kept_of_logged hload hcommands (fun hmode => hrun hmode content) hlog

/-- **An event adds its line to the log and changes nothing else in it.** -/
theorem bytesAt_handle (hlog : h.disk.bytesAt s.eventsPath = .ok content) (e : Announcement) :
    (((s.serviceWith run).handle e.vmName e.action e.moment).result h).2.disk.bytesAt s.eventsPath
      = .ok (content ++ Text.encode (e.line.toList ++ ['\n'])) := by
  obtain ⟨d', hrecord, hbytes⟩ :
      ∃ d', ((Audit.inFiles s.eventsPath s.commandsPath).recordEvent e.vmName e.action
          e.moment).result h.disk = (.ok (), d') ∧
        d'.bytesAt s.eventsPath = .ok (content ++ Audit.entry e.vmName e.action e.moment) :=
    Audit.recordEvent_of_bytesAt s.endsIn_eventsPath hlog
  have hdisk : (s.hookService.logged e.vmName e.action e.moment h).disk = d' :=
    congrArg Prod.snd hrecord
  rw [← hdisk, Audit.entry_eq] at hbytes
  exact bytesAt_of_logged hrun hbytes

/-- Events add their lines to the log in their order. -/
theorem bytesAt_handleAll (hlog : h.disk.bytesAt s.eventsPath = .ok content)
    (events : List Announcement) :
    ((s.serviceWith run).handleAll events h).disk.bytesAt s.eventsPath
      = .ok (content ++ Text.encode (Announcement.logOf events)) := by
  induction events generalizing h content with
  | nil => simpa [Hook.Service.handleAll, Announcement.logOf, Text.encode] using hlog
  | cons e rest ih =>
    have hrest := ih (bytesAt_handle hrun hlog e)
    rwa [List.append_assoc, ← Announcement.encode_logOf_cons] at hrest

/-- **The log of all events** that were handled, from the first one on. -/
theorem textAt_handleAll {first : Announcement} (hopens : s.OpensLog first h)
    (rest : List Announcement) :
    ((s.serviceWith run).handleAll (first :: rest) h).disk.textAt s.eventsPath
      = .ok (String.ofList (Announcement.logOf (first :: rest))) := by
  have hfirst := Audit.bytesAt_of_first (recordEvent_eq_ok hopens.recorded) hopens.absent
  rw [Audit.entry_eq] at hfirst
  have hall := bytesAt_handleAll hrun (bytesAt_of_logged hrun hfirst) rest
  rw [← Announcement.encode_logOf_cons] at hall
  apply Disk.textAt_of_bytesAt
  rw [String.toList_ofList]
  exact hall

end Handled

/-- **The log has one line for each event**, with the guest and the action of that event, if and
    only if no guest and no action has a line feed in it.  The log does not exist before the
    first event, and the runner leaves it alone. -/
theorem log_lines_iff (hrun : (s.serviceWith run).Spares Host.disk s.eventsPath)
    {first : Announcement} (hopens : s.OpensLog first h) (rest : List Announcement) :
    let events := first :: rest
    ∃ text,
      ((s.serviceWith run).handleAll events h).disk.textAt s.eventsPath = .ok text ∧
        (Text.lines text.toList = events.map (·.line.toList) ++ [[]]
          ↔ ∀ e ∈ events, e.OnOneLine) := by
  refine ⟨_, textAt_handleAll hrun hopens rest, ?_⟩
  rw [String.toList_ofList]
  exact Announcement.lines_logOf_eq_iff _

/-! ### Two logs -/

namespace Journal

def moment : Moment := ⟨⟨2024, 3, 9⟩, 14, 5, 0, 0⟩

def settings : Settings where
  storePath := "store.json"
  logDir := "log"

def service : Hook.Service Host := settings.serviceWith fun _ => pure ()

def prepared : Announcement := ⟨"spark", "prepare", moment⟩

def released : Announcement := ⟨"hadoop", " release ", moment⟩

theorem sparesLog : service.Spares Host.disk settings.eventsPath := fun _ _ _ => .pure ()

/-- There is no file on an empty disk. -/
theorem opensLog {e : Announcement}
    (hrecorded : ((settings.audit.recordEvent e.vmName e.action e.moment).result {}).1 = .ok ()) :
    settings.OpensLog e {} where
  recorded := hrecorded
  absent := by
    intro place hplace
    exact if_neg hplace.place_ne_nil

theorem opensLog_prepared : settings.OpensLog prepared {} :=
  opensLog (Except.eq_ok_of_toOption (by decide +kernel))

end Journal

open Journal in
/-- Two events on two lines. -/
theorem log_lines_prepared_released :
    ∃ text, (service.handleAll [prepared, released] {}).disk.textAt settings.eventsPath = .ok text ∧
      Text.lines text.toList = [prepared, released].map (·.line.toList) ++ [[]] := by
  obtain ⟨text, htext, hlines⟩ := log_lines_iff sparesLog opensLog_prepared [released]
  exact ⟨text, htext, hlines.2 (by decide +kernel)⟩

open Journal in
/-- **One event leaves the log that two others leave**: its lines are not the events that were
    handled. -/
theorem one_event_poses_as_two :
    let posing := Announcement.posingAs prepared released
    ∃ text,
      (service.handleAll [posing] {}).disk.textAt settings.eventsPath = .ok text ∧
        (service.handleAll [prepared, released] {}).disk.textAt settings.eventsPath = .ok text ∧
        Text.lines text.toList ≠ [posing].map (·.line.toList) ++ [[]] := by
  intro posing
  have hopens : settings.OpensLog posing {} :=
    opensLog (Except.eq_ok_of_toOption (by decide +kernel))
  refine ⟨_, textAt_handleAll sparesLog hopens [], ?_, ?_⟩
  · rw [Announcement.logOf_posingAs]
    exact textAt_handleAll sparesLog opensLog_prepared [released]
  · rw [String.toList_ofList, ne_eq, Announcement.lines_logOf_eq_iff, List.forall_mem_singleton]
    exact fun hline => hline.1 (by decide +kernel)

end Settings

end GuestPorts
