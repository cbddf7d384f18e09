/-
  GuestPorts/Proofs/Registry/Merging.lean
  =======================================
  **Merges compose** (`merges_compose`): two updates of a guest, one after the other, come to
  the same as the second one folded into the first, and an update that is repeated changes
  nothing.

  All of it rests on `addMissing`, which is associative for every overlap of the three lists:
  an element of the last one is passed over exactly if it is in one of the others, wherever
  these are put together (`addMissing_assoc`).  A guest's first update is kept as it is, its
  own repetitions included, so there it counts that nothing is removed from the list that is
  added to.
-/
import GuestPorts.Proofs.Registry.Replacement

namespace GuestPorts

/-! ### Adding what is missing -/

section AddMissing

variable {α : Type} [DecidableEq α]

theorem addMissing_append (xs ys zs : List α) :
    addMissing xs (ys ++ zs) = addMissing (addMissing xs ys) zs := List.foldl_append

theorem addMissing_cons (xs : List α) (z : α) (zs : List α) :
    addMissing xs (z :: zs) = addMissing (addMissing xs [z]) zs := addMissing_append xs [z] zs

theorem addMissing_singleton_of_mem {xs : List α} {z : α} (h : z ∈ xs) :
    addMissing xs [z] = xs := if_pos h

theorem addMissing_singleton_of_notMem {xs : List α} {z : α} (h : z ∉ xs) :
    addMissing xs [z] = xs ++ [z] := if_neg h

theorem addMissing_of_subset {xs ys : List α} (h : ∀ y ∈ ys, y ∈ xs) : addMissing xs ys = xs := by
  induction ys with
  | nil => rfl
  | cons y ys ih =>
    rw [List.forall_mem_cons] at h
    rw [addMissing_cons, addMissing_singleton_of_mem h.1, ih h.2]

theorem addMissing_assoc (xs ys zs : List α) :
    addMissing (addMissing xs ys) zs = addMissing xs (addMissing ys zs) := by
  -- the first of the last list goes to the end of the middle one, or is in one of the two
  induction zs generalizing ys with
  | nil => rfl
  | cons z zs ih =>
    have hone : addMissing (addMissing xs ys) [z] = addMissing xs (addMissing ys [z]) := by
      by_cases hz : z ∈ ys
      · rw [addMissing_singleton_of_mem hz,
          addMissing_singleton_of_mem (mem_addMissing.2 (.inr hz))]
      · rw [addMissing_singleton_of_notMem hz, addMissing_append]
    rw [addMissing_cons (addMissing xs ys), addMissing_cons ys, hone, ih]

theorem addMissing_self (xs : List α) : addMissing xs xs = xs :=
  addMissing_of_subset fun _ => id

/-- What is added comes behind what is there. -/
theorem prefix_addMissing (xs ys : List α) : xs <+: addMissing xs ys := by
  induction ys generalizing xs with
  | nil => exact List.prefix_refl xs
  | cons y ys ih =>
    have hone : xs <+: addMissing xs [y] := by
      by_cases h : y ∈ xs
      · rw [addMissing_singleton_of_mem h]
      · rw [addMissing_singleton_of_notMem h]
        exact List.prefix_append xs [y]
    rw [addMissing_cons]
    exact hone.trans (ih _)

end AddMissing

/-! ### Folding updates -/

namespace Declaration

theorem absorb_assoc (d u v : Declaration) :
    (d.absorb u).absorb v = d.absorb (u.absorb v) := by
  simp only [absorb, addMissing_assoc, Option.orElse_eq_orElse, Option.orElse_eq_or,
    Option.or_assoc]

theorem absorb_self (d : Declaration) : d.absorb d = d := by
  simp only [absorb, addMissing_self, Option.orElse_eq_orElse, Option.orElse_eq_or, Option.or_self]

def stamped (d : Declaration) (now : Moment) : Declaration := { d with lastUpdated := some now }

/-- The time of the last change plays no part in a fold, and goes when it is set again. -/
theorem stamped_absorb_stamped (d u : Declaration) (now now' : Moment) :
    ((d.stamped now).absorb u).stamped now' = (d.absorb u).stamped now' := rfl

end Declaration

/-! ### Two updates in a row -/

namespace Registry

variable (r : Registry) {u v : Declaration} (now now' : Moment)

theorem mergedEntry_of_find? {r : Registry} {d : Declaration} (h : r.find? u.vmName = some d) :
    r.mergedEntry u now = (d.absorb u).stamped now := by
  unfold mergedEntry
  rw [h]
  rfl

theorem mergedEntry_of_new {r : Registry} (h : r.find? u.vmName = none) :
    r.mergedEntry u now = u.stamped now := by
  unfold mergedEntry
  rw [h]
  rfl

theorem mergedEntry_put (h : v.vmName = u.vmName) :
    (r.put (r.mergedEntry u now) now).mergedEntry v now'
      = ((r.mergedEntry u now).absorb v).stamped now' := by
  apply mergedEntry_of_find?
  rw [h, ← vmName_mergedEntry r u now]
  exact find?_put r _ now

/-- A second update leaves what is left by both at once. -/
theorem stamped_mergedEntry_absorb (u v : Declaration) :
    ((r.mergedEntry u now).absorb v).stamped now' = r.mergedEntry (u.absorb v) now' := by
  have hname : (u.absorb v).vmName = u.vmName := rfl
  cases hfind : r.find? u.vmName with
  | some d =>
    rw [mergedEntry_of_find? now hfind, mergedEntry_of_find? now' (hname ▸ hfind),
      Declaration.stamped_absorb_stamped, Declaration.absorb_assoc]
  | none =>
    rw [mergedEntry_of_new now hfind, mergedEntry_of_new now' (hname ▸ hfind),
      Declaration.stamped_absorb_stamped]

theorem result_merge_of_ok {r : Registry} {now : Moment} {x : Registry × Declaration}
    (h : r.merge u now = .ok x) : (Store.inMemory.merge u now).result r = (.ok x.2, x.1) := by
  simp only [Effect.result, Store.merge, Store.inMemory, h]
  rfl

theorem result_merge_of_error {r : Registry} {now : Moment} {e : DeclarationError}
    (h : r.merge u now = .error e) :
    (Store.inMemory.merge u now).result r = (.error (.refused e), r) := by
  simp only [Effect.result, Store.merge, Store.inMemory, h]
  rfl

/-- **Two updates in a row come to the same as both at once**, refusals included. -/
theorem merge_merge (h : v.vmName = u.vmName) :
    (r.merge u now >>= fun x => x.1.merge v now') = r.merge (u.absorb v) now' := by
  have hname : (u.absorb v).vmName = u.vmName := rfl
  rw [merge_eq_map, merge_eq_map r (u.absorb v), hname]
  cases hcheck : r.checkUnaliased u.vmName with
  | error e => rfl
  | ok _ =>
    have hagain : (r.put (r.mergedEntry u now) now).checkUnaliased v.vmName = .ok () := by
      rw [h, ← vmName_mergedEntry r u now, checkUnaliased_put, vmName_mergedEntry, hcheck]
    have hlast : (r.put (r.mergedEntry u now) now).mergedEntry v now'
        = r.mergedEntry (u.absorb v) now' := by
      rw [mergedEntry_put r now now' h, stamped_mergedEntry_absorb]
    have hvm : (r.mergedEntry (u.absorb v) now').vmName = (r.mergedEntry u now).vmName := by
      rw [vmName_mergedEntry, vmName_mergedEntry, hname]
    simp only [Except.map, Except.ok_bind, merge_eq_map, hagain, hlast, put_put r hvm]

/-- Only the guest's name decides whether an update is refused. -/
theorem merge_eq_error_iff (h : v.vmName = u.vmName) {e : DeclarationError} :
    r.merge u now = .error e ↔ r.merge v now' = .error e := by
  rw [merge_eq_map, merge_eq_map, h]
  cases r.checkUnaliased u.vmName with
  | error e' => exact Iff.rfl
  | ok _ => exact ⟨nofun, nofun⟩

/-- The same of a registry in memory, where a refused update leaves what is kept. -/
theorem result_merge_merge (h : v.vmName = u.vmName) :
    (do let _ ← Store.inMemory.merge u now; Store.inMemory.merge v now').result r
      = (Store.inMemory.merge (u.absorb v) now').result r := by
  have hboth := merge_merge r now now' h
  have hname : (u.absorb v).vmName = u.vmName := rfl
  cases hfirst : r.merge u now with
  | error e =>
    have hrefused := (merge_eq_error_iff r now now' hname).1 hfirst
    rw [Effect.bind_of_error (result_merge_of_error hfirst), result_merge_of_error hrefused]
  | ok x =>
    rw [hfirst, Except.ok_bind] at hboth
    rw [Effect.bind_of_ok (result_merge_of_ok hfirst)]
    cases hsecond : x.1.merge v now' with
    | ok y => rw [result_merge_of_ok hsecond, result_merge_of_ok (hboth ▸ hsecond)]
    | error e =>
      have hrefused := (merge_eq_error_iff r now now' hname).2 (hboth ▸ hsecond)
      rw [hfirst] at hrefused
      cases hrefused

/-- **Merges compose**: a second update of a guest comes to the same as folding it into the
    first one, a refusal of the one is a refusal of the other, and an update that is repeated
    changes nothing. -/
theorem merges_compose (r : Registry) {u v : Declaration} (h : v.vmName = u.vmName)
    (now now' : Moment) :
    (r.merge u now >>= fun x => x.1.merge v now') = r.merge (u.absorb v) now' ∧
    (r.merge u now >>= fun x => x.1.merge u now') = r.merge u now' ∧
    (∀ e, r.merge u now = .error e ↔ r.merge v now' = .error e) ∧
    (do let _ ← Store.inMemory.merge u now; Store.inMemory.merge v now').result r
      = (Store.inMemory.merge (u.absorb v) now').result r ∧
    (do let _ ← Store.inMemory.merge u now; Store.inMemory.merge u now').result r
      = (Store.inMemory.merge u now').result r := by
  refine ⟨merge_merge r now now' h, ?_, fun e => merge_eq_error_iff r now now' h,
    result_merge_merge r now now' h, ?_⟩
  · rw [merge_merge r now now' rfl, Declaration.absorb_self]
  · rw [result_merge_merge r now now' rfl, Declaration.absorb_self]

/-- A new guest, whose first update names a mapping twice and whose second one names it again
    behind another one. -/
theorem merges_compose_repeated :
    let r : Registry := {}
    let u : Declaration := { vmName := "spark", portMap := [⟨80, 8080, .tcp⟩, ⟨80, 8080, .tcp⟩] }
    let v : Declaration := { vmName := "spark", portMap := [⟨53, 53, .udp⟩, ⟨80, 8080, .tcp⟩] }
    v.vmName = u.vmName ∧
      (r.merge u default >>= fun x => x.1.merge v default) = r.merge (u.absorb v) default ∧
      (r.merge (u.absorb v) default).toOption.map (fun x => x.2.portMap)
        = some [⟨80, 8080, .tcp⟩, ⟨80, 8080, .tcp⟩, ⟨53, 53, .udp⟩] := by
  intro r u v
  exact ⟨rfl, (merges_compose r (u := u) (v := v) rfl default default).1, by decide +kernel⟩

end Registry

end GuestPorts
