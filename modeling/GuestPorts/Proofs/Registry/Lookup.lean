/-
  GuestPorts/Proofs/Registry/Lookup.lean
  ======================================
  **The registry is a map that keeps the order in which its guests came**
  (`is_ordered_map`).

  A registry that was written by hand may name a guest twice, or hold names that are of no use,
  so nothing here asks that a name comes once.  A look-up and a replacement are about the first
  entry of a name, a removal about all of them.  They agree because none of them touches the
  entries of the other guests (`Registry.others`), and those are all that a look-up of another
  name can see (`Registry.find?_eq_of_others_eq`).
-/
import GuestPorts.Proofs.Registry.Merging

namespace GuestPorts

namespace Registry

variable {r r' : Registry} {d old : Declaration} {n : String} {now : Moment}

/-! ### The other guests -/

/-- The entries of all guests but one. -/
def others (r : Registry) (vmName : String) : List Declaration :=
  r.entries.filter fun d => d.vmName != vmName

/-- **A look-up sees the entries of its own guest only.** -/
theorem find?_eq_of_others_eq (h : r'.others n = r.others n) {m : String} (hm : m ≠ n) :
    r'.find? m = r.find? m := by
  -- the filter takes out no entry that the look-up could stop at
  have hothers : ∀ q : Registry, q.find? m = (q.others n).find? fun d => d.vmName == m := by
    intro q
    unfold find? others
    rw [List.find?_filter]
    congr 1
    funext d
    by_cases hd : d.vmName = m
    · simp [hd, hm]
    · simp [hd]
  rw [hothers r', hothers r, h]

theorem find?_eq_none_iff : r.find? n = none ↔ ∀ entry ∈ r.entries, entry.vmName ≠ n := by
  simp [find?]

/-- A change of one guest that leaves all others: each is found as before, and their entries
    stand in their order. -/
structure KeepsOthers (n : String) (r r' : Registry) : Prop where
  found : ∀ m, m ≠ n → r'.find? m = r.find? m
  order : r'.others n = r.others n

theorem keepsOthers_of_others_eq (h : r'.others n = r.others n) : KeepsOthers n r r' :=
  ⟨fun _ hm => find?_eq_of_others_eq h hm, h⟩

/-! ### A declaration that is put in -/

theorem putFirst_append {front : List Declaration} (h : ∀ entry ∈ front, entry.vmName ≠ d.vmName)
    (rest : List Declaration) : putFirst d (front ++ rest) = front ++ putFirst d rest := by
  induction front with
  | nil => rfl
  | cons entry front ih =>
    obtain ⟨hentry, hfront⟩ := List.forall_mem_cons.1 h
    rw [List.cons_append, putFirst, if_neg hentry, ih hfront, List.cons_append]

theorem entries_put_of_new (h : r.find? d.vmName = none) (now : Moment) :
    (r.put d now).entries = r.entries ++ [d] := by
  have happend := putFirst_append (find?_eq_none_iff.1 h) []
  rwa [List.append_nil] at happend

theorem entries_put_of_find? (h : r.find? d.vmName = some old) (now : Moment) :
    ∃ front back, r.entries = front ++ old :: back ∧
      (r.put d now).entries = front ++ d :: back := by
  obtain ⟨hold, front, back, hentries, hfront⟩ := List.find?_eq_some_iff_append.1 h
  have hname : old.vmName = d.vmName := by simpa using hold
  have hothers : ∀ entry ∈ front, entry.vmName ≠ d.vmName := by simpa using hfront
  refine ⟨front, back, hentries, ?_⟩
  unfold put
  simp only [hentries]
  rw [putFirst_append hothers, putFirst, if_pos hname]

theorem others_put (r : Registry) (d : Declaration) (now : Moment) :
    (r.put d now).others d.vmName = r.others d.vmName := by
  unfold others
  cases h : r.find? d.vmName with
  | none => simp [entries_put_of_new h now]
  | some old =>
    have hname : old.vmName = d.vmName := by simpa using List.find?_some h
    obtain ⟨front, back, hentries, hput⟩ := entries_put_of_find? h now
    rw [hentries, hput]
    simp [hname]

/-- What is there when a declaration has been put in: it is found, in the place of its guest's
    first one or at the end, and the registry changed at that time. -/
structure HoldsNow (r : Registry) (d : Declaration) (now : Moment) (r' : Registry) : Prop where
  found : r'.find? d.vmName = some d
  others : KeepsOthers d.vmName r r'
  last : r.find? d.vmName = none → r'.entries = r.entries ++ [d]
  place : ∀ old, r.find? d.vmName = some old →
    ∃ front back, r.entries = front ++ old :: back ∧ r'.entries = front ++ d :: back
  time : r'.lastUpdated = some now

theorem holdsNow_put (r : Registry) (d : Declaration) (now : Moment) :
    r.HoldsNow d now (r.put d now) where
  found := find?_put r d now
  others := keepsOthers_of_others_eq (others_put r d now)
  last := fun h => entries_put_of_new h now
  place := fun _ h => entries_put_of_find? h now
  time := rfl

/-- A declaration with the forwards of an older one at the front and those of an update. -/
structure Gathers (merged : Declaration) (old : Option Declaration) (u : Declaration) : Prop where
  mapsKept : ∀ d ∈ old, d.portMap <+: merged.portMap
  rangesKept : ∀ d ∈ old, d.portRanges <+: merged.portRanges
  maps : ∀ x ∈ u.portMap, x ∈ merged.portMap
  ranges : ∀ x ∈ u.portRanges, x ∈ merged.portRanges

theorem gathers_mergedEntry (r : Registry) (u : Declaration) (now : Moment) :
    Gathers (r.mergedEntry u now) (r.find? u.vmName) u := by
  cases h : r.find? u.vmName with
  | none =>
    rw [mergedEntry_of_new now h]
    exact ⟨nofun, nofun, fun _ => id, fun _ => id⟩
  | some old =>
    rw [mergedEntry_of_find? now h]
    constructor
    · rintro d ⟨rfl⟩
      exact prefix_addMissing _ _
    · rintro d ⟨rfl⟩
      exact prefix_addMissing _ _
    · exact fun x hx => mem_addMissing.2 (.inr hx)
    · exact fun x hx => mem_addMissing.2 (.inr hx)

/-! ### A guest that is removed -/

/-- What is there when a guest has been removed, and what the removal answers. -/
structure LacksNow (r : Registry) (n : String) (r' : Registry) (removed : Bool) : Prop where
  answer : removed = (r.find? n).isSome
  gone : r'.find? n = none
  others : KeepsOthers n r r'

theorem others_eq_entries_iff : r.others n = r.entries ↔ r.find? n = none := by
  rw [find?_eq_none_iff]
  unfold others
  rw [List.filter_eq_self]
  simp

theorem remove_of_find?_eq_none (h : r.find? n = none) (now : Moment) :
    r.remove n now = (r, false) := by
  have hlength : (r.others n).length = r.entries.length :=
    congrArg List.length (others_eq_entries_iff.2 h)
  exact if_pos hlength

theorem remove_of_find? (h : r.find? n = some d) (now : Moment) :
    r.remove n now = ({ entries := r.others n, lastUpdated := some now }, true) := by
  have hlength : (r.others n).length ≠ r.entries.length := by
    intro hlength
    -- a filter that leaves the number of entries leaves them all
    have hsame := List.filter_sublist.eq_of_length hlength
    rw [others_eq_entries_iff.1 hsame] at h
    cases h
  exact if_neg hlength

theorem lacksNow_remove (r : Registry) (n : String) (now : Moment) :
    r.LacksNow n (r.remove n now).1 (r.remove n now).2 := by
  cases h : r.find? n with
  | none =>
    rw [remove_of_find?_eq_none h]
    exact ⟨by rw [h]; rfl, h, keepsOthers_of_others_eq rfl⟩
  | some d =>
    rw [remove_of_find? h]
    refine ⟨by rw [h]; rfl, ?_, keepsOthers_of_others_eq ?_⟩
    · exact find?_eq_none_iff.2 fun entry hentry => by simpa using (List.mem_filter.1 hentry).2
    · unfold others
      rw [List.filter_filter]
      simp

/-! ### The time of the last change -/

namespace Call

/-- Whether a call tells of a change: a refused one does not, nor does the removal of a guest
    that is not there. -/
def tellsChange (r : Registry) : Call → Bool
  | .upsert d now => (r.upsert d now).isOk
  | .merge update now => (r.merge update now).isOk
  | .remove vmName now => (r.remove vmName now).2

def time : Call → Moment
  | .upsert _ now | .merge _ now | .remove _ now => now

theorem after_upsert (r : Registry) (d : Declaration) (now : Moment) :
    after r (.upsert d now) = (r.upsert d now).toOption.getD r := by
  simp only [after, run, Effect.result, Store.upsert, Store.inMemory]
  cases r.upsert d now <;> rfl

theorem after_merge (r : Registry) (u : Declaration) (now : Moment) :
    after r (.merge u now) = ((r.merge u now).toOption.map Prod.fst).getD r := by
  cases h : r.merge u now with
  | error e => rw [after, run, Effect.bind_of_error (result_merge_of_error h)]; rfl
  | ok x => rw [after, run, Effect.bind_of_ok (result_merge_of_ok h)]; rfl

theorem after_remove (r : Registry) (n : String) (now : Moment) :
    after r (.remove n now) = (r.remove n now).1 := rfl

/-- **A call that tells of a change sets the time of the last one**, and any other leaves the
    registry as it is. -/
theorem after_cases (r : Registry) (c : Call) :
    c.tellsChange r = true ∧ (after r c).lastUpdated = some c.time ∨
      c.tellsChange r = false ∧ after r c = r := by
  cases c with
  | upsert d now =>
    rw [after_upsert, tellsChange]
    cases h : r.upsert d now with
    | error e => exact .inr ⟨rfl, rfl⟩
    | ok r' =>
      obtain ⟨-, rfl⟩ := upsert_eq_ok_iff.1 h
      exact .inl ⟨rfl, rfl⟩
  | merge u now =>
    rw [after_merge, tellsChange]
    cases h : r.merge u now with
    | error e => exact .inr ⟨rfl, rfl⟩
    | ok x =>
      obtain ⟨-, -, hx⟩ := merge_eq_ok_iff.1 h
      refine .inl ⟨rfl, ?_⟩
      change x.1.lastUpdated = some now
      rw [hx]
      rfl
  | remove n now =>
    rw [after_remove, tellsChange]
    cases h : r.find? n with
    | none =>
      rw [remove_of_find?_eq_none h]
      exact .inr ⟨rfl, rfl⟩
    | some d =>
      rw [remove_of_find? h]
      exact .inl ⟨rfl, rfl⟩

end Call

/-! ### All three changes -/

/-- **The registry is a map in the order of insertion**, whatever names are in it, also more than
    once.  What is put in is found, what is merged holds the forwards of what was found and of
    the update, what is removed is not found; all other guests are found as before and in the
    same order; and the time of the last change is that of the call when it tells of one. -/
theorem is_ordered_map (r : Registry) :
    (∀ d now r', r.upsert d now = .ok r' → r.HoldsNow (d.stamped now) now r') ∧
      (∀ u now r' merged, r.merge u now = .ok (r', merged) → merged.vmName = u.vmName ∧
        r.HoldsNow merged now r' ∧ Gathers merged (r.find? u.vmName) u) ∧
      (∀ n now, r.LacksNow n (r.remove n now).1 (r.remove n now).2) ∧
      ∀ c : Call, c.tellsChange r = true ∧ (Call.after r c).lastUpdated = some c.time ∨
        c.tellsChange r = false ∧ Call.after r c = r := by
  refine ⟨?upsert, ?merge, lacksNow_remove r, Call.after_cases r⟩
  case upsert =>
    intro d now r' h
    obtain ⟨-, rfl⟩ := upsert_eq_ok_iff.1 h
    exact holdsNow_put r (d.stamped now) now
  case merge =>
    intro u now r' merged h
    obtain ⟨-, rfl, rfl⟩ := merge_eq_ok_iff.1 h
    exact ⟨vmName_mergedEntry r u now, holdsNow_put r _ now, gathers_mergedEntry r u now⟩

/-- A guest that is named twice, with a name that is of no use in between: the first entry is
    the one that is replaced, folded into and found, and a removal takes both. -/
theorem is_ordered_map_repeated :
    let spark : Declaration := { vmName := "spark", portMap := [⟨80, 8080, .tcp⟩] }
    let other : Declaration := { vmName := "em ber" }
    let r : Registry := { entries := [spark, other, { vmName := "spark" }] }
    let u : Declaration :=
      { vmName := "spark", portMap := [⟨53, 53, .udp⟩, ⟨80, 8080, .tcp⟩] }
    let merged := r.mergedEntry u default
    r.upsert u default = .ok (r.put (u.stamped default) default) ∧
      (r.put (u.stamped default) default).find? "spark" = some (u.stamped default) ∧
      r.merge u default = .ok (r.put merged default, merged) ∧
      (r.put merged default).find? "spark" = some merged ∧
      merged.portMap = [⟨80, 8080, .tcp⟩, ⟨53, 53, .udp⟩] ∧
      (r.remove "spark" default).1.find? "spark" = none ∧
      (r.remove "spark" default).1.find? "em ber" = some other := by
  intro spark other r u merged
  obtain ⟨hupsert, hmerge, hremove, -⟩ := is_ordered_map r
  have hcheck : r.checkUnaliased u.vmName = .ok () := by decide +kernel
  have hupserted : r.upsert u default = .ok (r.put (u.stamped default) default) :=
    upsert_eq_ok_iff.2 ⟨hcheck, rfl⟩
  have hmerged : r.merge u default = .ok (r.put merged default, merged) :=
    merge_eq_ok_iff.2 ⟨hcheck, rfl, rfl⟩
  obtain ⟨-, hholds, -⟩ := hmerge u default _ _ hmerged
  refine ⟨hupserted, (hupsert u default _ hupserted).found, hmerged, hholds.found,
    by decide +kernel, (hremove "spark" default).gone, ?_⟩
  exact (hremove "spark" default).others.found "em ber" (by decide)

end Registry

end GuestPorts
