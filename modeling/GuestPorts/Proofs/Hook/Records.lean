/-
  GuestPorts/Proofs/Hook/Records.lean
  ===================================
  **What writing down in files leaves as it was.**

  The commands that were written down are read back as they were given
  (`Audit.bytesAt_recordCommands`).  Writing down an event makes directories and writes one
  file, and a registry with a declaration in it is loaded as before
  (`Store.load_of_recorded`): unless that file is the document itself, or one of the
  directories takes the place of the document's lock.
-/
import GuestPorts.Hook.Event
import GuestPorts.Proofs.Disk.Directories
import GuestPorts.Proofs.Registry.Access

namespace GuestPorts

namespace Disk

variable {d d' : Disk} {path other : String}

/-- Two paths do not lead to one place. -/
def Apart (d : Disk) (path other : String) : Prop :=
  ∀ a b, d.locate path = .ok a → d.locate other = .ok b → a.place ≠ b.place

instance (d : Disk) (path other : String) : Decidable (d.Apart path other) :=
  match ha : d.locate path, hb : d.locate other with
  | .error _, _ => isTrue fun a b h _ => by rw [ha] at h; cases h
  | .ok _, .error _ => isTrue fun a b _ h => by rw [hb] at h; cases h
  | .ok a, .ok b =>
    decidable_of_iff (a.place ≠ b.place)
      ⟨fun h a' b' ha' hb' => by rw [ha] at ha'; rw [hb] at hb'; cases ha'; cases hb'; exact h,
        fun h => h a b ha hb⟩

end Disk

namespace Audit

variable {d d' : Disk} {path events commands vmName : String} {a : Action} {now : Moment}
  {lines : List String}

/-- The step is done behind the making of directories, which leaves all files as they are. -/
theorem ok_of_onFile {step : Effect Disk OsError Unit}
    (h : (onFile path step).result d = (.ok (), d')) :
    ∃ d₁, d.GrowsTo d₁ ∧
      (∀ {p content mode}, d₁.at? p = some (.file content mode) →
        d.at? p = some (.file content mode)) ∧
      step.result d₁ = (.ok (), d') := by
  unfold onFile at h
  have hrun := Effect.ok_of_wrap h
  cases hparent : Path.parent? path with
  | none =>
    rw [hparent] at hrun
    exact ⟨d, .refl d, id, hrun⟩
  | some directory =>
    rw [hparent] at hrun
    have hgrows := Disk.growsTo_makeDirectories directory d
    obtain ⟨u, d₁, hmake, hstep⟩ := Effect.ok_of_bind hrun
    rw [hmake] at hgrows
    refine ⟨d₁, hgrows, ?_, hstep⟩
    intro p content mode hat
    exact Disk.file_of_makeDirectories (by rwa [hmake])

theorem ok_of_recordEvent
    (h : ((inFiles events commands).recordEvent vmName a now).result d = (.ok (), d')) :
    ∃ d₁ place content mode, d.GrowsTo d₁ ∧ d₁.LeadsTo events place ∧
      d' = d₁.put place (.file content mode) := by
  obtain ⟨d₁, hgrows, -, hwrite⟩ := ok_of_onFile h
  obtain ⟨place, content, mode, hplace, rfl⟩ := Disk.of_revise_eq_ok hwrite
  exact ⟨d₁, place, _, mode, hgrows, hplace, rfl⟩

/-- **Commands that were written down are in their file as they were given.** -/
theorem bytesAt_recordCommands
    (h : ((inFiles events commands).recordCommands lines).result d = (.ok (), d')) :
    d'.bytesAt commands = .ok (Text.encode (commandsText lines).toList) := by
  obtain ⟨d₁, -, -, hwrite⟩ := ok_of_onFile h
  obtain ⟨place, content, mode, hplace, rfl⟩ := Disk.of_revise_eq_ok hwrite
  have hne := hplace.place_ne_nil
  have hput := hplace.put hne hplace.notDirectory (Text.encode (commandsText lines).toList) mode
  exact hput.bytesAt_eq_ok (Disk.at?_put hne _)

end Audit

namespace Store

variable {path : String} {d d' : Disk} {r : Registry}

/-- What is there when a registry is loaded that is not empty. -/
theorem of_load_eq_ok (h : ((inFile path).load.result d).1 = .ok r) (hr : r ≠ {}) :
    d.hasDirectory (Path.directory path) = true ∧
      (∃ place, d.LeadsTo (Path.lockBeside path) place) ∧
      readFile path d = .ok r ∧
      ∃ place node, d.find path = .ok (place, node) := by
  have hdirectory : d.hasDirectory (Path.directory path) = true := by
    by_contra hmissing
    rw [load_of_missing (Bool.eq_false_iff.2 hmissing)] at h
    cases h
    exact hr rfl
  have hlock : ((Disk.touch (Path.lockBeside path)).result d).1 = .ok () := by
    rcases htouch : (Disk.touch (Path.lockBeside path)).result d with ⟨e | u, d'⟩
    · rw [load_of_directory hdirectory,
        Effect.bind_of_error ((takeLock_of_directory hdirectory).trans
          (Effect.wrap_of_error htouch))] at h
      cases h
    · rfl
  have hread : readFile path d = .ok r := by
    rcases load_cases hdirectory with ⟨e, hload⟩ | ⟨d', hload, -⟩
    · rw [hload] at h
      cases h
    · rwa [hload] at h
  refine ⟨hdirectory, Disk.exists_leadsTo_of_touch hlock, hread, ?_⟩
  cases hfind : d.find path with
  | ok found => exact ⟨found.1, found.2, rfl⟩
  | error e =>
    have htext : d.textAt path = .error e := by
      unfold Disk.textAt Disk.bytesAt
      rw [hfind]
      rfl
    unfold readFile at hread
    rw [htext] at hread
    cases e <;> cases hread
    exact absurd rfl hr

/-- A registry is loaded as it is read when there is a place for the lock. -/
theorem load_of_leadsTo {place : Place} (hdirectory : d.hasDirectory (Path.directory path) = true)
    (hlock : d.LeadsTo (Path.lockBeside path) place) :
    ((inFile path).load.result d).1 = readFile path d := by
  rw [load_of_directory hdirectory]
  rcases takeLock_cases path d with ⟨e, htake⟩ | ⟨d', htake, hfind⟩
  · obtain ⟨content, mode, htouch, -⟩ := hlock.touch_eq
    rw [takeLock_of_directory hdirectory, Effect.wrap_of_ok htouch] at htake
    cases htake
  · rw [Effect.bind_of_ok htake]
    exact readFile_congr hfind

/-- **An event that is written down leaves what is loaded as it was.** -/
theorem load_of_recorded {events commands vmName : String} {a : Action} {now : Moment}
    (hload : ((inFile path).load.result d).1 = .ok r) (hr : r ≠ {})
    (hrecord : ((Audit.inFiles events commands).recordEvent vmName a now).result d
      = (.ok (), d'))
    (hdocument : d'.Apart events path)
    (hlock : d'.hasDirectory (Path.lockBeside path) = false) :
    ((inFile path).load.result d').1 = .ok r := by
  obtain ⟨hdirectory, ⟨lock, hleads⟩, hread, place, node, hfind⟩ := of_load_eq_ok hload hr
  obtain ⟨d₁, log, content, mode, hgrows, hlog, rfl⟩ := Audit.ok_of_recordEvent hrecord
  have hput : d₁.ExtendedBy (d₁.put log (.file content mode)) :=
    Disk.extendedBy_put hlog.place_ne_nil hlog.notDirectory
  have hext := hgrows.extendedBy.trans hput
  obtain ⟨spot, hspot, rfl, hat, -⟩ := Disk.exists_locate_of_find hfind
  -- the log is where the document is not
  have hne : spot.place ≠ log := by
    have hplaces := hdocument _ _
      (hlog.put hlog.place_ne_nil hlog.notDirectory content mode).locate_eq (hext.locate hspot)
    exact hplaces.symm
  have hfind' := hext.find hfind ((Disk.at?_put_of_ne hne _).trans (hgrows.at?_eq hat))
  have hplain : (d₁.put log (.file content mode)).at? lock ≠ some .directory := by
    intro hdir
    have hthere := Disk.hasDirectory_iff.2 ⟨_, hext.locate hleads.locate_eq, hdir⟩
    rw [hlock] at hthere
    cases hthere
  rw [load_of_leadsTo (hext.hasDirectory hdirectory) (hleads.extendedBy hext hplain),
    readFile_congr (hfind'.trans hfind.symm)]
  exact hread

end Store

end GuestPorts
