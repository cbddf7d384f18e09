/-
  GuestPorts/Proofs/Disk/Files.lean
  =================================
  **What writing a file leaves as it was.**

  A path leads through directories only, and a file is put where no directory is.  So every
  path that led somewhere leads to the same place afterwards (`Disk.locate_put`): directories
  stay, other files keep their content, and a path that a file could be written at is one
  still (`Disk.LeadsTo.put`).
-/
import GuestPorts.Disk.Basic
import GuestPorts.Proofs.Text.Split
import GuestPorts.Proofs.Text.Utf8
import Mathlib.Tactic.SplitIfs

namespace GuestPorts.Disk

variable {d : Disk} {path : String} {place : Place}

/-! ### Paths behind a change -/

/-- What is a directory stays one, and what is there stays there, if only as something else. -/
structure ExtendedBy (d d' : Disk) : Prop where
  workingDirectory_eq : d'.workingDirectory = d.workingDirectory
  directory {p : Place} : d.at? p = some .directory → d'.at? p = some .directory
  there {p : Place} : d.at? p ≠ none → d'.at? p ≠ none

namespace ExtendedBy

variable {d' d'' : Disk}

theorem trans (h : d.ExtendedBy d') (h' : d'.ExtendedBy d'') : d.ExtendedBy d'' where
  workingDirectory_eq := h'.workingDirectory_eq.trans h.workingDirectory_eq
  directory := h'.directory ∘ h.directory
  there := h'.there ∘ h.there

theorem step (h : d.ExtendedBy d') {q r : Place} {name : String} (hstep : d.step q name = .ok r) :
    d'.step q name = .ok r := by
  unfold Disk.step at hstep ⊢
  by_cases hdir : d.at? q = some .directory
  · rw [if_neg fun h => h hdir] at hstep
    rwa [if_neg fun hne => hne (h.directory hdir)]
  · rw [if_pos hdir] at hstep
    cases hstep

theorem walk (h : d.ExtendedBy d') {q r : Place} {names : List String}
    (hwalk : d.walk q names = .ok r) : d'.walk q names = .ok r := by
  induction names generalizing q with
  | nil => exact hwalk
  | cons name rest ih =>
    obtain ⟨next, hstep, hwalk⟩ := Except.bind_eq_ok.1 hwalk
    refine Except.bind_eq_ok.2 ⟨next, h.step hstep, ?_⟩
    cases hat : d.at? next with
    | none =>
      rw [hat] at hwalk
      cases hwalk
    | some node =>
      rw [hat] at hwalk
      -- what is there before is there behind the change
      cases hat' : d'.at? next with
      | none => exact absurd hat' (h.there (by rw [hat]; exact nofun))
      | some node' => exact ih hwalk

/-- **A path leads where it led before.** -/
theorem locate (h : d.ExtendedBy d') {spot : Spot} (hspot : d.locate path = .ok spot) :
    d'.locate path = .ok { spot with node := d'.at? spot.place } := by
  unfold Disk.locate at hspot ⊢
  have hstart : d'.start path = d.start path := by
    unfold start
    rw [h.workingDirectory_eq]
  obtain ⟨_, hcheck, hspot⟩ := Except.bind_eq_ok.1 hspot
  refine Except.bind_eq_ok.2 ⟨_, hcheck, ?_⟩
  cases hlast : (Path.pieces path).getLast? with
  | none =>
    rw [hlast] at hspot
    cases hspot
    rfl
  | some last =>
    rw [hlast] at hspot
    obtain ⟨dir, hwalk, hspot⟩ := Except.bind_eq_ok.1 hspot
    obtain ⟨q, hstep, hspot⟩ := Except.bind_eq_ok.1 hspot
    cases hspot
    refine Except.bind_eq_ok.2 ⟨dir, ?_, Except.bind_eq_ok.2 ⟨q, h.step hstep, rfl⟩⟩
    rw [hstart]
    exact h.walk hwalk

/-- What is still there is found again. -/
theorem find (h : d.ExtendedBy d') {node : Node}
    (hfind : d.find path = .ok (place, node)) (hat : d'.at? place = some node) :
    d'.find path = .ok (place, node) := by
  obtain ⟨spot, hspot, hfind⟩ := Except.bind_eq_ok.1 hfind
  refine Except.bind_eq_ok.2 ⟨_, h.locate hspot, ?_⟩
  cases hnode : spot.node with
  | none =>
    rw [hnode] at hfind
    cases hfind
  | some node' =>
    rw [hnode] at hfind
    simp only at hfind ⊢
    split_ifs at hfind with hslash
    · cases hfind
    · obtain ⟨rfl, rfl⟩ := Prod.mk.inj (Except.ok.inj hfind)
      rw [hat]
      simp only
      rw [if_neg hslash]
      rfl

end ExtendedBy

section Put

variable {p : Place} {content : List UInt8} {mode : Nat}

theorem at?_put_file (hne : p ≠ []) (q : Place) :
    (d.put p (.file content mode)).at? q
      = if q = p then some (.file content mode) else d.at? q := by
  split
  · next h => rw [h, at?_put hne]
  · next h => exact at?_put_of_ne h _

theorem at?_put_file_eq_directory (hne : p ≠ []) (hp : d.at? p ≠ some .directory) (q : Place) :
    (d.put p (.file content mode)).at? q = some .directory ↔ d.at? q = some .directory := by
  rw [at?_put_file hne]
  split
  · next h => exact iff_of_false nofun (h ▸ hp)
  · rfl

theorem extendedBy_put (hne : p ≠ []) (hp : d.at? p ≠ some .directory) :
    d.ExtendedBy (d.put p (.file content mode)) where
  workingDirectory_eq := rfl
  directory := (at?_put_file_eq_directory hne hp _).2
  there := by
    intro q hq
    rw [at?_put_file hne]
    split
    · exact nofun
    · exact hq

/-- **A path leads where it led before a file was put somewhere.** -/
theorem locate_put (hne : p ≠ []) (hp : d.at? p ≠ some .directory) {spot : Spot}
    (h : d.locate path = .ok spot) :
    (d.put p (.file content mode)).locate path
      = .ok { spot with node := (d.put p (.file content mode)).at? spot.place } :=
  (extendedBy_put hne hp).locate h

end Put

/-- What is said to be where a path leads is what is there. -/
theorem node_eq_of_locate {spot : Spot} (h : d.locate path = .ok spot) :
    spot.node = d.at? spot.place := by
  unfold locate at h
  obtain ⟨_, -, h⟩ := Except.bind_eq_ok.1 h
  split at h
  · cases h
    rfl
  · obtain ⟨dir, -, h⟩ := Except.bind_eq_ok.1 h
    obtain ⟨q, -, h⟩ := Except.bind_eq_ok.1 h
    cases h
    rfl

theorem hasDirectory_iff : d.hasDirectory path = true ↔
    ∃ spot, d.locate path = .ok spot ∧ d.at? spot.place = some .directory := by
  unfold hasDirectory node?
  rw [decide_eq_true_eq]
  constructor
  · intro h
    cases hfind : d.find path with
    | error e =>
      rw [hfind] at h
      cases h
    | ok r =>
      rw [hfind] at h
      obtain ⟨spot, hspot, hfind⟩ := Except.bind_eq_ok.1 hfind
      refine ⟨spot, hspot, ?_⟩
      rw [← node_eq_of_locate hspot]
      split at hfind
      · cases hfind
      · next node hnode =>
        split at hfind
        · cases hfind
        · cases hfind
          rw [hnode]
          exact h
  · rintro ⟨spot, hspot, hdirectory⟩
    have hnode : spot.node = some .directory := (node_eq_of_locate hspot).trans hdirectory
    have hfind : d.find path = .ok (spot.place, .directory) := by
      refine Except.bind_eq_ok.2 ⟨spot, hspot, ?_⟩
      rw [hnode]
      simp
      rfl
    rw [hfind]

theorem ExtendedBy.hasDirectory {d' : Disk} (h : d.ExtendedBy d')
    (hpath : d.hasDirectory path = true) : d'.hasDirectory path = true := by
  obtain ⟨spot, hspot, hdirectory⟩ := hasDirectory_iff.1 hpath
  exact hasDirectory_iff.2 ⟨_, h.locate hspot, h.directory hdirectory⟩

theorem hasDirectory_put {p : Place} {content : List UInt8} {mode : Nat} (hne : p ≠ [])
    (hp : d.at? p ≠ some .directory) (h : d.hasDirectory path = true) :
    (d.put p (.file content mode)).hasDirectory path = true :=
  (extendedBy_put hne hp).hasDirectory h

theorem textAt_of_bytesAt {text : String} (h : d.bytesAt path = .ok (Text.encode text.toList)) :
    d.textAt path = .ok text := by
  unfold textAt
  rw [h]
  simp only [Except.ok_bind, Text.decode_encode, String.ofList_toList]
  rfl

/-! ### Places for files -/

/-- A path leads to this place, and a file is there or may be put there. -/
structure LeadsTo (d : Disk) (path : String) (place : Place) : Prop where
  locate_eq : d.locate path = .ok ⟨place, d.at? place, true, false⟩
  notDirectory : d.at? place ≠ some .directory

theorem leadsTo_of_fileToWrite {r : Place × List UInt8 × Nat} (h : d.fileToWrite path = .ok r) :
    d.LeadsTo path r.1 := by
  unfold fileToWrite at h
  obtain ⟨⟨place, node, isNamed, hasSlash⟩, hspot, h⟩ := Except.bind_eq_ok.1 h
  have hnode : node = d.at? place := node_eq_of_locate hspot
  subst hnode
  simp only at h
  split at h
  · cases h
  · next hplain =>
    obtain ⟨rfl, rfl⟩ : hasSlash = false ∧ isNamed = true := by simpa using hplain
    split at h
    · cases h
    · next heq =>
      cases h
      exact ⟨hspot, by rw [heq]; exact nofun⟩
    · next heq =>
      cases h
      exact ⟨hspot, by rw [heq]; exact nofun⟩

/-- What was written where. -/
theorem of_revise_eq_ok {d' : Disk} {f : List UInt8 → List UInt8}
    (h : (revise path f).result d = (.ok (), d')) :
    ∃ place content mode, d.LeadsTo path place ∧ d' = d.put place (.file (f content) mode) := by
  simp only [revise, Effect.result, Effect.ofFunction] at h
  cases hwrite : d.fileToWrite path with
  | error e =>
    rw [hwrite] at h
    cases h
  | ok r =>
    obtain ⟨place, content, mode⟩ := r
    rw [hwrite] at h
    exact ⟨place, content, mode, leadsTo_of_fileToWrite hwrite, (congrArg Prod.snd h).symm⟩

theorem revise_error {d' : Disk} {f : List UInt8 → List UInt8} {e : OsError}
    (h : (revise path f).result d = (.error e, d')) : d' = d := by
  simp only [revise, Effect.result, Effect.ofFunction] at h
  split at h
  · cases h
  · cases h
    rfl

theorem exists_leadsTo_of_touch (h : ((touch path).result d).1 = .ok ()) :
    ∃ place, d.LeadsTo path place := by
  obtain ⟨place, -, -, hplace, -⟩ := of_revise_eq_ok (Prod.ext h rfl)
  exact ⟨place, hplace⟩

theorem exists_leadsTo_of_replaceText {mode : Nat} {text : String}
    (h : ((replaceText path mode text).result d).1 = .ok ()) : ∃ place, d.LeadsTo path place := by
  simp only [replaceText, Effect.result, Effect.ofFunction] at h
  cases hspot : d.locate path with
  | error e =>
    rw [hspot] at h
    cases h
  | ok spot =>
    obtain ⟨place, node, isNamed, hasSlash⟩ := spot
    have hnode : node = d.at? place := node_eq_of_locate hspot
    subst hnode
    simp only [hspot] at h
    split_ifs at h with hnamed hslash hdirectory
    obtain rfl : isNamed = true := by simpa using hnamed
    obtain rfl : hasSlash = false := by simpa using hslash
    exact ⟨place, hspot, hdirectory⟩

namespace LeadsTo

theorem place_ne_nil (h : d.LeadsTo path place) : place ≠ [] := by
  rintro rfl
  exact h.notDirectory rfl

theorem extendedBy {d' : Disk} (h : d.LeadsTo path place) (hext : d.ExtendedBy d')
    (hnot : d'.at? place ≠ some .directory) : d'.LeadsTo path place where
  locate_eq := hext.locate h.locate_eq
  notDirectory := hnot

theorem put (h : d.LeadsTo path place) {p : Place} (hne : p ≠ [])
    (hp : d.at? p ≠ some .directory) (content : List UInt8) (mode : Nat) :
    (d.put p (.file content mode)).LeadsTo path place :=
  h.extendedBy (extendedBy_put hne hp) fun hdir =>
    h.notDirectory ((at?_put_file_eq_directory hne hp place).1 hdir)

/-- A file is changed where the path leads. -/
theorem revise_of_file (h : d.LeadsTo path place) {content : List UInt8} {mode : Nat}
    (hat : d.at? place = some (.file content mode)) (f : List UInt8 → List UInt8) :
    (revise path f).result d = (.ok (), d.put place (.file (f content) mode)) := by
  have hwrite : d.fileToWrite path = .ok (place, content, mode) := by
    unfold fileToWrite
    simp only [h.locate_eq, Except.ok_bind, hat]
    rfl
  simp only [revise, Effect.ofFunction, Effect.result, hwrite]

/-- A file is made where the path leads if there is none. -/
theorem revise_of_none (h : d.LeadsTo path place) (hat : d.at? place = none)
    (f : List UInt8 → List UInt8) :
    (revise path f).result d = (.ok (), d.put place (.file (f []) plainMode)) := by
  have hwrite : d.fileToWrite path = .ok (place, [], plainMode) := by
    unfold fileToWrite
    simp only [h.locate_eq, Except.ok_bind, hat]
    rfl
  simp only [revise, Effect.ofFunction, Effect.result, hwrite]

/-- What is there already is not changed. -/
theorem touch_eq (h : d.LeadsTo path place) :
    ∃ content mode, (touch path).result d = (.ok (), d.put place (.file content mode)) ∧
      ∀ node, d.at? place = some node → node = .file content mode := by
  cases hat : d.at? place with
  | none => exact ⟨_, _, h.revise_of_none hat id, nofun⟩
  | some node =>
    cases node with
    | directory => exact absurd hat h.notDirectory
    | file content mode =>
      exact ⟨content, mode, h.revise_of_file hat id, fun node hnode => (Option.some.inj hnode).symm⟩

theorem replaceText_eq (h : d.LeadsTo path place) (mode : Nat) (text : String) :
    (replaceText path mode text).result d
      = (.ok (), d.put place (.file (Text.encode text.toList) mode)) := by
  simp only [replaceText, Effect.ofFunction, Effect.result, h.locate_eq]
  simp [h.notDirectory]

theorem find_eq (h : d.LeadsTo path place) :
    d.find path = match d.at? place with
      | none => .error .notFound
      | some node => .ok (place, node) := by
  unfold find
  simp only [h.locate_eq, Except.ok_bind]
  cases d.at? place <;> rfl

/-- **The bytes of a file are the ones that were put there.** -/
theorem bytesAt_eq_ok (h : d.LeadsTo path place) {content : List UInt8} {mode : Nat}
    (hat : d.at? place = some (.file content mode)) : d.bytesAt path = .ok content := by
  unfold bytesAt
  rw [h.find_eq, hat]
  rfl

/-- **The text of a file is the one that was put there.** -/
theorem textAt_eq_ok (h : d.LeadsTo path place) {text : String} {mode : Nat}
    (hat : d.at? place = some (.file (Text.encode text.toList) mode)) :
    d.textAt path = .ok text :=
  textAt_of_bytesAt (h.bytesAt_eq_ok hat)

end LeadsTo

end GuestPorts.Disk
