/-
  GuestPorts/Proofs/Registry/Replacement.lean
  ===========================================
  **A declaration takes the place of its guest's first one.**

  An upsert and a merge that are not refused leave the registry with one declaration put in
  (`Registry.put`).  That declaration is the one that is found afterwards, another one for the
  same guest replaces it, and neither changes what the check of its guest's name compares with.
-/
import GuestPorts.Proofs.Registry.Aliases

namespace GuestPorts.Registry

/-- The registry with a declaration in the place of its guest's first one, or at the end. -/
def put (r : Registry) (d : Declaration) (now : Moment) : Registry :=
  { entries := putFirst d r.entries, lastUpdated := some now }

theorem upsert_eq_ok_iff {r r' : Registry} {d : Declaration} {now : Moment} :
    r.upsert d now = .ok r' ↔
      r.checkUnaliased d.vmName = .ok () ∧ r' = r.put { d with lastUpdated := some now } now := by
  unfold upsert
  rw [Except.bind_eq_ok]
  constructor
  · rintro ⟨u, hcheck, h⟩
    cases h
    exact ⟨hcheck, rfl⟩
  · rintro ⟨hcheck, rfl⟩
    exact ⟨(), hcheck, rfl⟩

/-- The check of the name is all that a merge can fail at. -/
theorem merge_eq_map (r : Registry) (update : Declaration) (now : Moment) :
    r.merge update now = (r.checkUnaliased update.vmName).map fun _ =>
      (r.put (r.mergedEntry update now) now, r.mergedEntry update now) := by
  unfold merge
  cases r.checkUnaliased update.vmName <;> rfl

theorem merge_eq_ok_iff {r r' : Registry} {u merged : Declaration} {now : Moment} :
    r.merge u now = .ok (r', merged) ↔ r.checkUnaliased u.vmName = .ok () ∧
      merged = r.mergedEntry u now ∧ r' = r.put merged now := by
  rw [merge_eq_map]
  cases r.checkUnaliased u.vmName with
  | error e => exact ⟨nofun, nofun⟩
  | ok _ =>
    constructor
    · intro h
      cases h
      exact ⟨rfl, rfl, rfl⟩
    · rintro ⟨-, rfl, rfl⟩
      rfl

/-! ### What is there behind it -/

variable {r : Registry} {d d' : Declaration} {now now' : Moment}

/-- Its guest is there, and all that were there before. -/
theorem mem_names_put {m : String} : m ∈ (r.put d now).names ↔ m ∈ r.names ∨ m = d.vmName := by
  unfold put names
  rw [map_vmName_putFirst]
  split
  · next h => exact ⟨.inl, fun hm => hm.elim id fun he => he ▸ h⟩
  · rw [List.mem_append, List.mem_singleton]

theorem find?_put (r : Registry) (d : Declaration) (now : Moment) :
    (r.put d now).find? d.vmName = some d := by
  unfold put find?
  induction r.entries with
  | nil => simp [putFirst]
  | cons entry rest ih =>
    rw [putFirst]
    by_cases hname : entry.vmName = d.vmName
    · simp [hname]
    · simpa [hname] using ih

theorem putFirst_putFirst (h : d'.vmName = d.vmName) (entries : List Declaration) :
    putFirst d' (putFirst d entries) = putFirst d' entries := by
  induction entries with
  | nil => simp [putFirst, h]
  | cons entry rest ih =>
    by_cases hname : entry.vmName = d.vmName
    · simp [putFirst, hname, h]
    · simp [putFirst, hname, h, ih]

/-- A second declaration of the guest replaces the first one, in its place. -/
theorem put_put (r : Registry) (h : d'.vmName = d.vmName) (now now' : Moment) :
    (r.put d now).put d' now' = r.put d' now' := by
  unfold put
  rw [putFirst_putFirst h]

theorem firstAlias_putFirst (chains : Chains) (d : Declaration) (entries : List Declaration) :
    firstAlias d.vmName chains (putFirst d entries) = firstAlias d.vmName chains entries := by
  induction entries with
  | nil => simp [putFirst, firstAlias]
  | cons entry rest ih =>
    by_cases hname : entry.vmName = d.vmName
    · simp [putFirst, firstAlias, hname]
    · simp [putFirst, firstAlias, hname, ih]

/-- A guest is compared with the others, and these are the same behind it. -/
theorem checkUnaliased_put (r : Registry) (d : Declaration) (now : Moment) :
    (r.put d now).checkUnaliased d.vmName = r.checkUnaliased d.vmName := by
  unfold checkUnaliased put
  simp only [firstAlias_putFirst]

end GuestPorts.Registry
