/-
  GuestPorts/Proofs/Registry/Access.lean
  ======================================
  **The steps of an access to a registry in a file**, each as one equation or as the outcomes
  that it has.

  The only thing that an access writes besides the document is the lock, and what a path leads
  to does not depend on the lock beside it (`Disk.locate_touchLock`).  That holds for all paths,
  also for those that no file can be at.
-/
import GuestPorts.Proofs.Disk.Paths
import GuestPorts.Registry.File

namespace GuestPorts

namespace Disk

variable {d d' : Disk} {path : String}

/-- **Taking the lock of a path does not change where the path leads**, nor what is there. -/
theorem locate_touchLock (h : (touch (Path.lockBeside path)).result d = (.ok (), d')) :
    d'.locate path = d.locate path := by
  obtain ⟨place, content, mode, hlock, rfl⟩ := of_revise_eq_ok h
  by_cases hempty : path.toList = []
  · have hcheck : checkPath path = .error .notFound := if_pos hempty
    unfold locate
    rw [hcheck]
    rfl
  · obtain ⟨spot, hspot, hne⟩ := exists_locate_of_lock hempty hlock.locate_eq
    rw [locate_put hlock.place_ne_nil hlock.notDirectory hspot, at?_put_of_ne hne,
      ← node_eq_of_locate hspot, hspot]

theorem find_congr (h : d'.locate path = d.locate path) : d'.find path = d.find path := by
  unfold find
  rw [h]

theorem replaceText_error {mode : Nat} {text : String} {e : OsError}
    (h : (replaceText path mode text).result d = (.error e, d')) : d' = d := by
  simp only [replaceText, Effect.result, Effect.ofFunction] at h
  split at h
  · cases h
    rfl
  · split_ifs at h <;> cases h <;> rfl

end Disk

namespace Store

variable {path : String} {d d' : Disk} {α : Type}

/-! ### The lock -/

theorem readFile_congr (h : d'.find path = d.find path) : readFile path d' = readFile path d := by
  unfold readFile Disk.textAt Disk.bytesAt
  rw [h]

theorem takeLock_of_missing (h : d.hasDirectory (Path.directory path) = false) :
    (takeLock path).result d = (.error (.missingDirectory (Path.directory path)), d) := by
  simp only [takeLock, Effect.result, Effect.bind_apply, Effect.asks, h]
  rfl

theorem result_hasDirectory (path : String) (d : Disk) :
    (Effect.asks fun d => .ok (d.hasDirectory (Path.directory path)) :
      Effect Disk StoreError Bool).result d = (.ok (d.hasDirectory (Path.directory path)), d) := rfl

theorem takeLock_of_directory (h : d.hasDirectory (Path.directory path) = true) :
    (takeLock path).result d
      = (Effect.wrap (.lock (Path.lockBeside path))
          (Disk.touch (Path.lockBeside path))).result d := by
  simp only [takeLock, Effect.result, Effect.bind_apply, Effect.asks, h]
  rfl

theorem takeLock_cases (path : String) (d : Disk) :
    (∃ e, (takeLock path).result d = (.error e, d)) ∨
      ∃ d', (takeLock path).result d = (.ok (), d') ∧ d'.find path = d.find path := by
  by_cases hdirectory : d.hasDirectory (Path.directory path) = true
  · rw [takeLock_of_directory hdirectory]
    rcases htouch : (Disk.touch (Path.lockBeside path)).result d with ⟨e | u, d'⟩
    · obtain rfl := Disk.revise_error htouch
      exact .inl ⟨_, Effect.wrap_of_error htouch⟩
    · have hfind := Disk.find_congr (Disk.locate_touchLock htouch)
      exact .inr ⟨d', Effect.wrap_of_ok htouch, hfind⟩
  · exact .inl ⟨_, takeLock_of_missing (Bool.eq_false_iff.2 hdirectory)⟩

theorem load_of_missing (h : d.hasDirectory (Path.directory path) = false) :
    (inFile path).load.result d = (.ok {}, d) := by
  have hthere := result_hasDirectory path d
  rw [h] at hthere
  exact Effect.bind_of_ok hthere _

theorem load_of_directory (h : d.hasDirectory (Path.directory path) = true) :
    (inFile path).load.result d
      = (takeLock path >>= fun _ => Effect.asks (readFile path)).result d := by
  have hthere := result_hasDirectory path d
  rw [h] at hthere
  exact Effect.bind_of_ok hthere _

theorem load_cases (h : d.hasDirectory (Path.directory path) = true) :
    (∃ e, (inFile path).load.result d = (.error e, d)) ∨
      ∃ d', (inFile path).load.result d = (readFile path d, d') ∧ d'.find path = d.find path := by
  rw [load_of_directory h]
  rcases takeLock_cases path d with ⟨e, hlock⟩ | ⟨d', hlock, hfind⟩
  · exact .inl ⟨e, Effect.bind_of_error hlock _⟩
  · refine .inr ⟨d', (Effect.bind_of_ok hlock _).trans ?_, hfind⟩
    rw [← readFile_congr hfind]
    rfl

/-! ### Changing -/

/-- What a change does when the lock is taken. -/
theorem change_of_locked (hlock : (takeLock path).result d = (.ok (), d')) (f : Change α) :
    ((inFile path).change f).result d
      = match readFile path d' with
        | .error e => (.error e, d')
        | .ok before =>
          match f before with
          | .error e => (.error (.refused e), d')
          | .ok (a, after) =>
            match (Disk.replaceText path Disk.privateMode (document after)).result d' with
            | (.error e, d'') => (.error (.io path e), d'')
            | (.ok (), d'') => (.ok a, d'') := by
  have hread : (Effect.asks (readFile path) : Effect Disk StoreError Registry).result d'
      = (readFile path d', d') := rfl
  unfold inFile
  simp only
  rw [Effect.bind_of_ok hlock]
  cases hbefore : readFile path d' with
  | error e =>
    rw [hbefore] at hread
    exact Effect.bind_of_error hread _
  | ok before =>
    rw [hbefore] at hread
    rw [Effect.bind_of_ok hread]
    dsimp only
    cases f before with
    | error e => rfl
    | ok x =>
      obtain ⟨a, after⟩ := x
      rw [Except.mapError, Effect.bind_of_ok (Effect.result_ofExcept _ d')]
      dsimp only
      rcases hreplace : (Disk.replaceText path Disk.privateMode (document after)).result d' with
        ⟨e | u, d''⟩
      · exact Effect.bind_of_error (Effect.wrap_of_error hreplace) _
      · exact Effect.bind_of_ok (Effect.wrap_of_ok hreplace) _

end Store

end GuestPorts
