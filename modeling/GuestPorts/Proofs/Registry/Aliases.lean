/-
  GuestPorts/Proofs/Registry/Aliases.lean
  =======================================
  **No two guests of a registry share a chain.**

  What counts is the list of names: replacing or merging a declaration leaves it as it is,
  a removal takes names out, and only a new guest adds one, behind all others and after it
  has been compared with each of them (`checkUnaliased_eq_ok`).  So a registry whose guests
  are apart stays so through every sequence of calls, whatever they are given
  (`calls_keep_sound`).  Nothing here depends on how the digest in a cut name is made.
-/
import GuestPorts.Proofs.Chain.Names
import GuestPorts.Registry.File

namespace GuestPorts

/-! ### Chains that share no name -/

theorem Chains.mem_names {cs : Chains} {x : String} :
    x ∈ cs.names ↔ ∃ r : Role, (cs.get r).name = x := by
  simp only [Chains.names, Chains.toList, List.map_cons, List.map_nil, List.mem_cons,
    List.not_mem_nil, or_false]
  constructor
  · rintro (rfl | rfl | rfl)
    · exact ⟨.ingress, rfl⟩
    · exact ⟨.egress, rfl⟩
    · exact ⟨.forward, rfl⟩
  · rintro ⟨r, rfl⟩
    cases r <;> simp [Chains.get]

theorem Chains.sharedName_eq_none {cs cs' : Chains} :
    cs.sharedName cs' = none ↔ ∀ r r' : Role, (cs.get r).name ≠ (cs'.get r').name := by
  unfold Chains.sharedName
  simp only [List.find?_eq_none, List.contains_iff_mem, Chains.mem_names]
  constructor
  · intro h r r' he
    exact h _ ⟨r, rfl⟩ ⟨r', he.symm⟩
  · rintro h _ ⟨r, rfl⟩ ⟨r', he⟩
    exact h r r' he.symm

namespace Registry

/-- Two guests have different names and no chain name in common, in whatever roles, unless
    the name of one of them is unusable. -/
def Apart (n m : String) : Prop :=
  ∀ cs cs', Chains.ofGuest n = .ok cs → Chains.ofGuest m = .ok cs' →
    n ≠ m ∧ ∀ r r' : Role, (cs.get r).name ≠ (cs'.get r').name

theorem Apart.symm {n m : String} (h : Apart n m) : Apart m n := by
  intro cs cs' hcs hcs'
  obtain ⟨hne, hnames⟩ := h cs' cs hcs' hcs
  exact ⟨hne.symm, fun r r' he => hnames r' r he.symm⟩

def names (r : Registry) : List String := r.entries.map Declaration.vmName

/-- All guests are apart. -/
def Sound (r : Registry) : Prop := r.names.Pairwise Apart

theorem sound_empty : Sound {} := .nil

/-! ### The check before a change -/

theorem aliasWith_eq_none {cs : Chains} {entry : Declaration} :
    aliasWith cs entry = none ↔ ∀ cs', Chains.ofGuest entry.vmName = .ok cs' →
      ∀ r r' : Role, (cs.get r).name ≠ (cs'.get r').name := by
  unfold aliasWith
  cases h : Chains.ofGuest entry.vmName with
  | error e => simp
  | ok others => simp [Chains.sharedName_eq_none]

theorem firstAlias_eq_none {n : String} {cs : Chains} {entries : List Declaration} :
    firstAlias n cs entries = none ↔
      ∀ entry ∈ entries, entry.vmName ≠ n → aliasWith cs entry = none := by
  induction entries with
  | nil => simp [firstAlias]
  | cons entry rest ih =>
    rw [firstAlias, List.forall_mem_cons]
    by_cases hn : entry.vmName = n
    · simp [hn, ih]
    · cases ha : aliasWith cs entry with
      | some chain => simp [hn]
      | none => simp [hn, ih]

/-- **A checked name is usable, and its guest is apart from every other guest.** -/
theorem checkUnaliased_eq_ok {r : Registry} {n : String} (h : r.checkUnaliased n = .ok ()) :
    ∀ m ∈ r.names, m ≠ n → Apart m n := by
  intro m hm hne
  obtain ⟨entry, hentry, rfl⟩ := List.mem_map.1 hm
  unfold checkUnaliased at h
  split at h
  · cases h
  · next cs hcs =>
    split at h
    · cases h
    · next hnone =>
      refine Apart.symm fun cs₁ cs₂ hcs₁ hcs₂ => ⟨hne.symm, ?_⟩
      rw [hcs] at hcs₁
      cases hcs₁
      exact aliasWith_eq_none.1 (firstAlias_eq_none.1 hnone entry hentry hne) cs₂ hcs₂

/-! ### The three changes -/

/-- A declaration that is put in adds its guest's name, if it is not there. -/
theorem map_vmName_putFirst (d : Declaration) (entries : List Declaration) :
    (putFirst d entries).map Declaration.vmName =
      if d.vmName ∈ entries.map Declaration.vmName then entries.map Declaration.vmName
      else entries.map Declaration.vmName ++ [d.vmName] := by
  induction entries with
  | nil => simp [putFirst]
  | cons entry rest ih =>
    rw [putFirst]
    by_cases hn : entry.vmName = d.vmName
    · simp [hn]
    · have hn' : d.vmName ≠ entry.vmName := fun he => hn he.symm
      rw [if_neg hn, List.map_cons, ih, List.map_cons]
      by_cases hmem : d.vmName ∈ rest.map Declaration.vmName
      · rw [if_pos hmem, if_pos (List.mem_cons_of_mem _ hmem)]
      · rw [if_neg hmem, if_neg (by simp [hn', hmem]), List.cons_append]

theorem Sound.putFirst {r : Registry} (h : r.Sound) {d : Declaration} {now : Option Moment}
    (hd : r.checkUnaliased d.vmName = .ok ()) :
    Sound { entries := putFirst d r.entries, lastUpdated := now } := by
  unfold Sound names
  rw [map_vmName_putFirst]
  split
  · exact h
  · next hnew =>
    -- the new name comes last, so it is only compared with the names before it
    refine List.pairwise_append.2 ⟨h, List.pairwise_singleton _ _, fun m hm n hn => ?_⟩
    rw [List.mem_singleton.1 hn]
    exact checkUnaliased_eq_ok hd m hm fun he => hnew (he ▸ hm)

theorem Sound.upsert {r r' : Registry} (h : r.Sound) {d : Declaration} {now : Moment}
    (hr : r.upsert d now = .ok r') : r'.Sound := by
  unfold Registry.upsert at hr
  cases hcheck : r.checkUnaliased d.vmName with
  | error e =>
    rw [hcheck] at hr
    cases hr
  | ok u =>
    rw [hcheck] at hr
    cases hr
    exact h.putFirst (d := { d with lastUpdated := some now }) hcheck

theorem vmName_mergedEntry (r : Registry) (update : Declaration) (now : Moment) :
    (r.mergedEntry update now).vmName = update.vmName := by
  unfold mergedEntry
  split
  · next d hd =>
    have hname : d.vmName = update.vmName := by simpa using List.find?_some hd
    exact hname
  · rfl

theorem Sound.merge {r r' : Registry} (h : r.Sound) {update merged : Declaration} {now : Moment}
    (hr : r.merge update now = .ok (r', merged)) : r'.Sound := by
  unfold Registry.merge at hr
  cases hcheck : r.checkUnaliased update.vmName with
  | error e =>
    rw [hcheck] at hr
    cases hr
  | ok u =>
    rw [hcheck] at hr
    cases hr
    refine h.putFirst ?_
    rw [vmName_mergedEntry]
    exact hcheck

theorem Sound.remove {r : Registry} (h : r.Sound) (vmName : String) (now : Moment) :
    (r.remove vmName now).1.Sound := by
  unfold Registry.remove
  simp only []
  split
  · exact h
  · exact List.Pairwise.sublist (List.filter_sublist.map Declaration.vmName) h

/-! ### Any sequence of calls -/

/-- A call that may change a registry. -/
inductive Call where
  | upsert (d : Declaration) (now : Moment)
  | merge (update : Declaration) (now : Moment)
  | remove (vmName : String) (now : Moment)
  deriving DecidableEq, Repr

def Call.run : Call → Effect Registry StoreError Unit
  | .upsert d now => Store.inMemory.upsert d now
  | .merge update now => do let _ ← Store.inMemory.merge update now
  | .remove vmName now => do let _ ← Store.inMemory.remove vmName now

def Call.after (r : Registry) (c : Call) : Registry := (c.run.result r).2

/-- A call is refused and changes nothing, or it keeps the guests apart. -/
theorem Call.run_cases (c : Call) (r : Registry) :
    (∃ e, c.run.result r = (.error e, r)) ∨
      ∃ r', c.run.result r = (.ok (), r') ∧ (r.Sound → r'.Sound) := by
  cases c with
  | upsert d now =>
    cases hr : r.upsert d now with
    | error e =>
      refine .inl ⟨.refused e, ?_⟩
      simp only [Call.run, Effect.result, Store.upsert, Store.inMemory, hr]
      rfl
    | ok r' =>
      refine .inr ⟨r', ?_, fun h => h.upsert hr⟩
      simp only [Call.run, Effect.result, Store.upsert, Store.inMemory, hr]
      rfl
  | merge update now =>
    cases hr : r.merge update now with
    | error e =>
      refine .inl ⟨.refused e, ?_⟩
      simp only [Call.run, Effect.result, Effect.bind_apply, Store.merge, Store.inMemory, hr]
      rfl
    | ok x =>
      refine .inr ⟨x.1, ?_, fun h => h.merge hr⟩
      simp only [Call.run, Effect.result, Effect.bind_apply, Store.merge, Store.inMemory, hr]
      rfl
  | remove vmName now => exact .inr ⟨(r.remove vmName now).1, rfl, fun h => h.remove vmName now⟩

theorem Sound.after {r : Registry} (h : r.Sound) (c : Call) : (Call.after r c).Sound := by
  unfold Call.after
  rcases c.run_cases r with ⟨e, hrun⟩ | ⟨r', hrun, hsound⟩
  · rw [hrun]
    exact h
  · rw [hrun]
    exact hsound h

theorem Call.after_of_error {r : Registry} {c : Call} {e : StoreError}
    (h : (c.run.result r).1 = .error e) : Call.after r c = r := by
  unfold Call.after
  rcases c.run_cases r with ⟨e', hrun⟩ | ⟨r', hrun, -⟩
  · rw [hrun]
  · rw [hrun] at h
    cases h

/-- **No sequence of calls brings two guests together**: in the empty registry they are
    apart, they stay apart behind every call, and a refused call changes nothing. -/
theorem calls_keep_sound :
    Sound {} ∧ ∀ r : Registry, r.Sound → ∀ calls : List Call, ∀ r' ∈ calls.scanl Call.after r,
      r'.Sound ∧ ∀ (c : Call) (e : StoreError), (c.run.result r').1 = .error e →
        (c.run.result r').2 = r' := by
  refine ⟨sound_empty, fun r h calls r' hr' => ⟨?_, fun c e he => Call.after_of_error he⟩⟩
  induction calls generalizing r with
  | nil =>
    rw [List.scanl_nil, List.mem_singleton] at hr'
    rw [hr']
    exact h
  | cons c rest ih =>
    rw [List.scanl_cons] at hr'
    rcases List.mem_cons.1 hr' with rfl | hrest
    · exact h
    · exact ih (Call.after r c) (h.after c) hrest

/-- A second guest is taken in; one whose name has a blank is refused. -/
theorem calls_keep_sound_spark :
    let r : Registry := { entries := [{ vmName := "spark" }] }
    let ember : Call := .merge { vmName := "ember" } default
    let blank : Call := .upsert { vmName := "em ber" } default
    (Call.after r ember).Sound ∧
      (blank.run.result (Call.after r ember)).2 = Call.after r ember := by
  intro r ember blank
  have hr : r.Sound := List.pairwise_singleton _ _
  have hmem : Call.after r ember ∈ [ember].scanl Call.after r := by
    rw [List.scanl_cons]
    exact List.mem_cons_of_mem _ List.mem_cons_self
  have hrefused : (blank.run.result (Call.after r ember)).1
      = .error (.refused (.name (.badCharacter "em ber" ' '))) := by decide +kernel
  obtain ⟨hsound, hsame⟩ := calls_keep_sound.2 r hr [ember] (Call.after r ember) hmem
  exact ⟨hsound, hsame blank _ hrefused⟩

end Registry

end GuestPorts
