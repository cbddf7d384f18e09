/-
  GuestPorts/Proofs/Disk/Directories.lean
  =======================================
  **What making directories leaves as it was**: everything that is there.

  A directory is made only where nothing is, so a disk on which directories were made shows
  the same files and more directories (`Disk.growsTo_makeDirectories`), whether all of them
  could be made or not.
-/
import GuestPorts.Proofs.Disk.Files

namespace GuestPorts.Disk

/-- Whatever is there stays as it is. -/
structure GrowsTo (d d' : Disk) : Prop where
  workingDirectory_eq : d'.workingDirectory = d.workingDirectory
  at?_eq {p : Place} {node : Node} : d.at? p = some node → d'.at? p = some node

namespace GrowsTo

variable {d d' d'' : Disk}

theorem refl (d : Disk) : d.GrowsTo d := ⟨rfl, id⟩

theorem trans (h : d.GrowsTo d') (h' : d'.GrowsTo d'') : d.GrowsTo d'' where
  workingDirectory_eq := h'.workingDirectory_eq.trans h.workingDirectory_eq
  at?_eq := h'.at?_eq ∘ h.at?_eq

theorem extendedBy (h : d.GrowsTo d') : d.ExtendedBy d' where
  workingDirectory_eq := h.workingDirectory_eq
  directory := h.at?_eq
  there := by
    intro p hp
    obtain ⟨node, hnode⟩ := Option.ne_none_iff_exists'.1 hp
    rw [h.at?_eq hnode]
    exact nofun

end GrowsTo

/-- A directory is made where nothing is. -/
theorem growsTo_put {d : Disk} {place : Place} (hat : d.at? place = none) :
    d.GrowsTo (d.put place .directory) where
  workingDirectory_eq := rfl
  at?_eq := by
    intro p node hp
    have hne : p ≠ place := by
      rintro rfl
      rw [hp] at hat
      cases hat
    rw [at?_put_of_ne hne, hp]

/-! ### What is kept when directories are made

All directories are made one by one, each where nothing is, so a property that such a step
keeps is kept by all of them. -/

section Keeps

open Effect (Keeps)

variable {P : Disk → Prop}
  (hput : ∀ {d : Disk} {place : Place}, d.at? place = none → P d → P (d.put place .directory))

include hput

theorem keeps_makeDirectory (path : String) : Keeps P (makeDirectory path) := by
  intro d hd
  simp only [makeDirectory, Effect.result, Effect.ofFunction]
  cases hspot : d.locate path with
  | error e => exact hd
  | ok spot =>
    have hat := node_eq_of_locate hspot
    cases hnode : spot.node with
    | some node =>
      simp only [hnode]
      exact hd
    | none =>
      simp only [hnode]
      rw [hnode] at hat
      exact hput hat.symm hd

theorem keeps_ensureDirectory (path : String) : Keeps P (ensureDirectory path) := by
  intro d hd
  have hmake := keeps_makeDirectory hput path d hd
  simp only [ensureDirectory, Effect.result, Effect.ofFunction] at hmake ⊢
  rcases hrun : makeDirectory path d with ⟨e | u, d'⟩
  · rw [hrun] at hmake
    dsimp only
    split <;> exact hmake
  · rw [hrun] at hmake
    exact hmake

theorem keeps_makeNested (paths : List String) : Keeps P (makeNested paths) := by
  induction paths with
  | nil => exact .pure ()
  | cons path above ih =>
    intro d hd
    have hfirst := keeps_ensureDirectory hput path d hd
    have hagain : Keeps P (makeNested above >>= fun _ => ensureDirectory path) :=
      ih.bind fun _ => keeps_ensureDirectory hput path
    simp only [makeNested, Effect.result, Effect.ofFunction] at hfirst ⊢
    split
    · next d' hmissing =>
      rw [hmissing] at hfirst
      exact hagain d' hfirst
    · exact hfirst

theorem keeps_makeDirectories (path : String) : Keeps P (makeDirectories path) :=
  keeps_makeNested hput (Path.upwards path)

end Keeps

/-- **Making directories changes nothing that is there.** -/
theorem growsTo_makeDirectories (path : String) (d : Disk) :
    d.GrowsTo ((makeDirectories path).result d).2 :=
  keeps_makeDirectories (fun hat h => h.trans (growsTo_put hat)) path d (.refl d)

/-- A file that is there when directories were made was there before. -/
theorem file_of_makeDirectories {path : String} {d : Disk} {p : Place} {content : List UInt8}
    {mode : Nat} (h : ((makeDirectories path).result d).2.at? p = some (.file content mode)) :
    d.at? p = some (.file content mode) := by
  have hput : ∀ {d' : Disk} {place : Place}, d'.at? place = none →
      (d'.at? p = some (.file content mode) → d.at? p = some (.file content mode)) →
      (d'.put place .directory).at? p = some (.file content mode) →
        d.at? p = some (.file content mode) := by
    intro d' place hat hold hnew
    by_cases hp : p = place
    · rw [hp, at?_put (by rintro rfl; cases hat)] at hnew
      cases hnew
    · rw [at?_put_of_ne hp] at hnew
      exact hold hnew
  exact keeps_makeDirectories hput path d id h

end GuestPorts.Disk
