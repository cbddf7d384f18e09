/-
  GuestPorts/Proofs/Disk/Contents.lean
  ====================================
  **What a file holds while other things are written**: the same bytes.

  Making directories and making sure that a file is there change no file.  Writing to a path
  changes no file of another name (`Disk.keeps_bytesAt_revise`), wherever the two paths lead.
  And a file that was written once can be written again without any directory being made
  (`Disk.makeDirectories_of_hasDirectory`).
-/
import GuestPorts.Proofs.Disk.Directories
import GuestPorts.Proofs.Disk.Paths

namespace GuestPorts

open Effect (Keeps)

/-! ### The last name of a path -/

namespace Path

/-- The last name of a path, a name of its own. -/
structure EndsIn (path name : String) : Prop where
  pieces_eq : ∃ front, pieces path = front ++ [name]
  ne_dot : name ≠ "."
  ne_dots : name ≠ ".."

theorem exists_toList_append (base : String) {name : String} (hname : isAbsolute name = false) :
    ∃ front, IsFront front ∧ (append base name).toList = front ++ name.toList := by
  unfold append
  rw [hname, Bool.false_or]
  split_ifs with hempty hslash
  · exact ⟨[], .inl rfl, rfl⟩
  · obtain ⟨before, hbefore⟩ := List.getLast?_eq_some_iff.1 hslash
    exact ⟨base.toList, .inr ⟨before, hbefore⟩, String.toList_append⟩
  · exact ⟨base.toList ++ ['/'], .inr ⟨_, rfl⟩, by simp⟩

/-- A name below a directory is the last one of its path. -/
theorem endsIn_append (base : String) {name : String} (hslash : '/' ∉ name.toList)
    (hne : name ≠ "") (hdot : name ≠ ".") (hdots : name ≠ "..") :
    EndsIn (append base name) name := by
  have hrelative : isAbsolute name = false := by
    unfold isAbsolute
    rw [decide_eq_false_iff_not]
    exact fun hhead => hslash (List.mem_of_mem_head? hhead)
  obtain ⟨front, hfront, hpath⟩ := exists_toList_append base hrelative
  refine ⟨⟨piecesOf front, ?_⟩, hdot, hdots⟩
  rw [pieces_eq hpath hfront, piecesOf_of_notMem hslash (by simpa using hne), String.ofList_toList]

end Path

namespace Disk

variable {d d' : Disk} {path other name : String} {content : List UInt8} {place : Place}

theorem of_locate_endsIn (h : Path.EndsIn path name) {spot : Spot}
    (hspot : d.locate path = .ok spot) :
    spot.isNamed = true ∧ ∃ q, spot.place = q ++ [name] := by
  obtain ⟨front, hpieces⟩ := h.pieces_eq
  unfold locate at hspot
  obtain ⟨_, -, hspot⟩ := Except.bind_eq_ok.1 hspot
  rw [hpieces, List.getLast?_concat, List.dropLast_concat] at hspot
  obtain ⟨q, -, hspot⟩ := Except.bind_eq_ok.1 hspot
  obtain ⟨place, hstep, hspot⟩ := Except.bind_eq_ok.1 hspot
  obtain ⟨-, -, hplace⟩ := (step_eq_ok_iff h.ne_dot h.ne_dots).1 hstep
  cases hspot
  exact ⟨by simp [h.ne_dot, h.ne_dots], q, hplace⟩

/-! ### Reading a file -/

theorem bytesAt_eq_ok_iff : d.bytesAt path = .ok content ↔
    ∃ place mode, d.find path = .ok (place, .file content mode) := by
  unfold bytesAt
  constructor
  · intro h
    obtain ⟨⟨place, node⟩, hfind, h⟩ := Except.bind_eq_ok.1 h
    cases node with
    | directory => cases h
    | file bytes mode =>
      cases h
      exact ⟨place, mode, hfind⟩
  · rintro ⟨place, mode, hfind⟩
    rw [hfind]
    rfl

/-- A file that is where it was has the bytes that it had. -/
theorem ExtendedBy.bytesAt (h : d.ExtendedBy d') (hbytes : d.bytesAt path = .ok content)
    (hkept : ∀ {spot mode}, d.locate path = .ok spot →
      d.at? spot.place = some (.file content mode) →
      d'.at? spot.place = some (.file content mode)) :
    d'.bytesAt path = .ok content := by
  obtain ⟨place, mode, hfind⟩ := bytesAt_eq_ok_iff.1 hbytes
  obtain ⟨spot, hspot, rfl, hat, -⟩ := exists_locate_of_find hfind
  exact bytesAt_eq_ok_iff.2 ⟨_, mode, h.find hfind (hkept hspot hat)⟩

/-- The file at a path of this kind is one that can be written. -/
theorem exists_leadsTo_of_bytesAt (h : Path.EndsIn path name)
    (hbytes : d.bytesAt path = .ok content) :
    ∃ place mode, d.LeadsTo path place ∧ d.at? place = some (.file content mode) := by
  obtain ⟨place, mode, hfind⟩ := bytesAt_eq_ok_iff.1 hbytes
  obtain ⟨⟨p, node, isNamed, hasSlash⟩, hspot, rfl, hat, hslash⟩ := exists_locate_of_find hfind
  obtain ⟨rfl, -⟩ := of_locate_endsIn h hspot
  have hnode : node = d.at? p := node_eq_of_locate hspot
  subst hnode
  have hfile : hasSlash = false := by
    rw [Bool.eq_false_iff]
    intro hdirectory
    cases hslash hdirectory
  subst hfile
  exact ⟨p, mode, ⟨hspot, by rw [hat]; exact nofun⟩, hat⟩

/-! ### Writing beside a file -/

theorem keeps_bytesAt_makeDirectories (directory : String) :
    Keeps (fun d => d.bytesAt path = .ok content) (makeDirectories directory) :=
  keeps_makeDirectories
    (fun hat hbytes => (growsTo_put hat).extendedBy.bytesAt hbytes fun _ => (growsTo_put hat).at?_eq)
    directory

/-- **Making sure that a file is there** changes no file, also not that one. -/
theorem keeps_bytesAt_touch (other : String) :
    Keeps (fun d => d.bytesAt path = .ok content) (touch other) := by
  intro d hbytes
  rcases htouch : (touch other).result d with ⟨e | u, d'⟩
  · rwa [revise_error htouch]
  · obtain ⟨p, hother⟩ := exists_leadsTo_of_touch (congrArg Prod.fst htouch)
    obtain ⟨bytes, mode, hput, hkept⟩ := hother.touch_eq
    rw [hput] at htouch
    obtain rfl := (Prod.mk.inj htouch).2
    refine (extendedBy_put hother.place_ne_nil hother.notDirectory).bytesAt hbytes ?_
    intro spot mode' _ hat
    rw [at?_put_file hother.place_ne_nil]
    split_ifs with hp
    · rw [hp] at hat
      rw [hkept _ hat]
    · exact hat

/-- **Writing to a path** changes no file of another name. -/
theorem keeps_bytesAt_revise {name' : String} (hpath : Path.EndsIn path name)
    (hother : Path.EndsIn other name') (hne : name ≠ name') (f : List UInt8 → List UInt8) :
    Keeps (fun d => d.bytesAt path = .ok content) (revise other f) := by
  intro d hbytes
  rcases hrevise : (revise other f).result d with ⟨e | u, d'⟩
  · rwa [revise_error hrevise]
  · obtain ⟨p, bytes, mode, hleads, rfl⟩ := of_revise_eq_ok hrevise
    refine (extendedBy_put hleads.place_ne_nil hleads.notDirectory).bytesAt hbytes ?_
    intro spot _ hspot hat
    obtain ⟨-, q, hplace⟩ := of_locate_endsIn hpath hspot
    obtain ⟨-, q', hp⟩ := of_locate_endsIn hother hleads.locate_eq
    have hapart : spot.place ≠ p := by
      rw [hplace]
      rintro rfl
      exact hne (List.cons.inj (List.append_inj' hp rfl).2).1
    rw [at?_put_of_ne hapart, hat]

theorem ensureDirectory_of_hasDirectory (h : d.hasDirectory path = true) :
    (ensureDirectory path).result d = (.ok (), d) := by
  obtain ⟨spot, hspot, hat⟩ := hasDirectory_iff.1 h
  have hnode : spot.node = some .directory := (node_eq_of_locate hspot).trans hat
  have hmake : (makeDirectory path).result d = (.error .exists, d) := by
    simp only [makeDirectory, Effect.result, Effect.ofFunction, hspot, hnode]
  unfold ensureDirectory
  simp only [Effect.result, Effect.ofFunction] at hmake ⊢
  rw [hmake]
  simp only [h, if_true]

/-- **A directory that is there need not be made.** -/
theorem makeDirectories_of_hasDirectory (h : d.hasDirectory path = true) :
    (makeDirectories path).result d = (.ok (), d) := by
  have hensure := ensureDirectory_of_hasDirectory h
  have hnested : ∀ above, (makeNested (path :: above)).result d = (.ok (), d) := by
    intro above
    simp only [makeNested, Effect.result, Effect.ofFunction] at hensure ⊢
    rw [hensure]
  unfold makeDirectories Path.upwards Path.upwardsFor
  split_ifs
  · rfl
  · split <;> exact hnested _

/-- The directory of a file that is there need not be made. -/
theorem makeDirectories_of_bytesAt {directory : String} (h : d.bytesAt path = .ok content)
    (hparent : Path.parent? path = some directory) :
    (makeDirectories directory).result d = (.ok (), d) := by
  have hdirectory := hasDirectory_of_bytesAt h
  unfold Path.directory at hdirectory
  rw [hparent] at hdirectory
  by_cases hempty : directory.isEmpty = true
  · unfold makeDirectories Path.upwards Path.upwardsFor
    rw [if_pos hempty]
    rfl
  · simp only [hempty] at hdirectory
    exact makeDirectories_of_hasDirectory hdirectory

end Disk

end GuestPorts
