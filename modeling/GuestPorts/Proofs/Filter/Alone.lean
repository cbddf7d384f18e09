/-
  GuestPorts/Proofs/Filter/Alone.lean
  ===================================
  **One guest's footprint over a kernel that nobody else works on.**

  `Footprint.PartOf` says what of a kernel is the guest's.  Here everything around it is fixed
  too: the kernel is one without the guest (`base`) with the footprint over it, the jumps in
  front of the rules that stand at the gates (`Footprint.Shows`).  What the kernel does to a
  command is known from the guest's part; that the change keeps the rest is `Shows.change`, and
  both make the simulation (`Shows.apply`).
-/
import GuestPorts.Proofs.Filter.Part

namespace GuestPorts

/-- A kernel is `base` with the footprint over it. -/
structure Footprint.Shows (cs : Chains) (base : Kernel) (f : Footprint) (k : Kernel) : Prop where
  own : ∀ r : Role, k.rules r.table (cs.get r).name = f.chains r
  gate : ∀ g : Gate, k.rules g.table g.chain
    = (base.rules g.table g.chain).map ((f.jumps g).map (g.rule cs) ++ ·)
  rest : ∀ t n, (∀ r : Role, (t, n) ≠ (r.table, (cs.get r).name)) →
    (∀ g : Gate, (t, n) ≠ (g.table, g.chain)) → k.rules t n = base.rules t n
  plain : ∀ r rs, f.chains r = some rs → ∀ x ∈ rs, x.IsPlain

namespace Footprint.Shows

variable {cs : Chains} {base k k' : Kernel} {f : Footprint}

theorem of_clear (h : base.Clear cs) : Shows cs base .empty base where
  own := fun r => h.absent r
  gate := fun g => by simp [empty]
  rest := fun _ _ _ _ => rfl
  plain := fun r rs h => by simp [empty] at h

/-- A footprint is shown by one kernel only. -/
theorem unique (h : Shows cs base f k) (h' : Shows cs base f k') : k = k' := by
  apply Kernel.ext_rules
  intro t n
  by_cases hown : ∃ r : Role, (t, n) = (r.table, (cs.get r).name)
  · obtain ⟨r, hr⟩ := hown
    cases hr
    rw [h.own, h'.own]
  · by_cases hgate : ∃ g : Gate, (t, n) = (g.table, g.chain)
    · obtain ⟨g, hg⟩ := hgate
      cases hg
      rw [h.gate, h'.gate]
    · have hr : ∀ r : Role, (t, n) ≠ (r.table, (cs.get r).name) := fun r he => hown ⟨r, he⟩
      have hg : ∀ g : Gate, (t, n) ≠ (g.table, g.chain) := fun g he => hgate ⟨g, he⟩
      rw [h.rest t n hr hg, h'.rest t n hr hg]

/-- A kernel shows one footprint only. -/
theorem footprint_eq {f' : Footprint} (h : Shows cs base f k) (h' : Shows cs base f' k) :
    f = f' := by
  refine Footprint.ext (fun g => ?_) fun r => (h.own r).symm.trans (h'.own r)
  obtain ⟨rs, hrs⟩ := base.exists_rules_of_builtin g.chain_mem_builtins
  have hgate := (h.gate g).symm.trans (h'.gate g)
  rw [hrs, Option.map_some, Option.map_some, Option.some.injEq, List.append_left_inj] at hgate
  exact List.map_injective_iff.2 (g.rule_inj cs) hgate

/-- When nothing of the guest is left, the kernel is what it was without the guest. -/
theorem eq_base (hclear : base.Clear cs) (h : Shows cs base .empty k) : k = base :=
  h.unique (of_clear hclear)

/-! ### Changes in one place -/

/-- A change of one of the guest's chains. -/
theorem of_own (hp : cs.Proper) (h : Shows cs base f k) (r : Role) {rs : Option (List Rule)}
    (hrs : ∀ xs, rs = some xs → ∀ x ∈ xs, x.IsPlain)
    (hk : ∀ t n, k'.rules t n = if (t, n) = (r.table, (cs.get r).name) then rs else k.rules t n) :
    Shows cs base (f.setChain r rs) k' where
  own := fun r' => by
    rw [hk, chains_setChain]
    by_cases hr : r' = r
    · rw [if_pos (by rw [hr]), if_pos hr]
    · rw [if_neg (fun he => hr (hp.name_inj (Prod.mk.inj he).2)), if_neg hr, h.own]
  gate := fun g => by
    rw [hk, if_neg (fun he => hp.name_ne_chain r g (Prod.mk.inj he).2.symm), jumps_setChain,
      h.gate]
  rest := fun t n hown hgate => by
    rw [hk, if_neg (hown r), h.rest t n hown hgate]
  plain := fun r' xs hxs => by
    rw [chains_setChain] at hxs
    by_cases hr : r' = r
    · rw [if_pos hr] at hxs
      exact hrs xs hxs
    · rw [if_neg hr] at hxs
      exact h.plain r' xs hxs

theorem put_own (hp : cs.Proper) (h : Shows cs base f k) (r : Role) {rs : List Rule}
    (hrs : ∀ x ∈ rs, x.IsPlain) :
    Shows cs base (f.setChain r (some rs)) (k.put r.table (cs.get r).name rs) :=
  h.of_own hp r (fun _ he => Option.some.inj he ▸ hrs) fun t n => k.rules_put _ _ _ t n

theorem put_gate (hp : cs.Proper) (h : Shows cs base f k) (g : Gate) (as : List Address)
    {rs : List Rule} (hrs : base.rules g.table g.chain = some rs) :
    Shows cs base (f.setJumps g as) (k.put g.table g.chain (as.map (g.rule cs) ++ rs)) where
  own := fun r => by
    rw [Kernel.rules_put, if_neg (fun he => hp.name_ne_chain r g (Prod.mk.inj he).2),
      chains_setJumps, h.own]
  gate := fun g' => by
    rw [Kernel.rules_put, jumps_setJumps]
    by_cases hg : g' = g
    · subst hg
      rw [if_pos rfl, if_pos rfl, hrs, Option.map_some]
    · rw [if_neg (fun he => hg (Gate.chain_inj (Prod.mk.inj he).2)), if_neg hg, h.gate]
  rest := fun t n hown hgate => by
    rw [Kernel.rules_put, if_neg (hgate g), h.rest t n hown hgate]
  plain := fun r rs' hr => h.plain r rs' hr

/-! ### Every command is a move -/

/-- The footprint is the guest's part, because the kernel around it has nothing of the guest. -/
theorem partOf (hp : cs.Proper) (hclear : base.Clear cs) (h : Shows cs base f k) :
    PartOf cs f k where
  own := h.own
  gate := fun g => by
    obtain ⟨rs, hrs⟩ := base.exists_rules_of_builtin g.chain_mem_builtins
    have hbase := hclear.jumpsTo_eq_nil g.table g.chain
    unfold Kernel.jumpsTo at hbase ⊢
    rw [hrs, Option.getD_some] at hbase
    rw [h.gate, hrs, Option.map_some, Option.getD_some, List.filter_append,
      cs.filter_owns_jumps g, hbase, List.append_nil]
  rest := fun t n hgate => by
    by_cases hown : ∃ r : Role, (t, n) = (r.table, (cs.get r).name)
    · -- the rules of the guest's own chains jump to no chain
      obtain ⟨r, hr⟩ := hown
      obtain ⟨rfl, rfl⟩ := Prod.mk.inj hr
      unfold Kernel.jumpsTo
      rw [h.own, List.filter_eq_nil_iff]
      intro x hx
      cases hrs : f.chains r with
      | none =>
        rw [hrs] at hx
        cases hx
      | some rs =>
        rw [hrs] at hx
        exact Bool.eq_false_iff.1 (hp.owns_eq_false_of_isPlain r.table (h.plain r rs hrs x hx))
    · have hbase := hclear.jumpsTo_eq_nil t n
      unfold Kernel.jumpsTo at hbase ⊢
      rwa [h.rest t n (fun r he => hown ⟨r, he⟩) hgate]

theorem change (hp : cs.Proper) (h : Shows cs base f k) {f' : Footprint}
    (hc : Change cs f k f' k') : Shows cs base f' k' := by
  cases hc with
  | own r hk hrs =>
    refine h.of_own hp r ?_ hk
    intro xs hxs x hx
    rcases hrs xs hxs x hx with hplain | ⟨old, hold, hmem⟩
    · exact hplain
    · exact h.plain r old hold x hmem
  | @link g a rs hrs =>
    obtain ⟨ys, hys⟩ := base.exists_rules_of_builtin g.chain_mem_builtins
    rw [h.gate, hys, Option.map_some, Option.some.injEq] at hrs
    rw [← hrs]
    exact h.put_gate hp g (a :: f.jumps g) hys
  | @unlink g a ha rs hrs =>
    obtain ⟨ys, hys⟩ := base.exists_rules_of_builtin g.chain_mem_builtins
    rw [h.gate, hys, Option.map_some, Option.some.injEq] at hrs
    rw [← hrs, List.erase_append_left _ (List.mem_map_of_mem ha), ← List.map_erase (g.rule_inj cs)]
    exact h.put_gate hp g ((f.jumps g).erase a) hys

/-- Nothing else than jumps at the gates leads to a chain of the guest. -/
theorem isTarget_iff (hp : cs.Proper) (hclear : base.Clear cs) (h : Shows cs base f k)
    (r : Role) : k.IsTarget r.table (cs.get r).name ↔ ¬ f.Unlinked r :=
  (h.partOf hp hclear).isTarget_iff hp r

/-- **A command does to the kernel what its move does to the footprint**, and fails when
    the move is not possible. -/
theorem apply (hp : cs.Proper) (hclear : base.Clear cs) (h : Shows cs base f k) {m : Move}
    (hm : m.IsPlain) (stage : Stage) :
    Option.Rel (Shows cs base) (f.move m) (k.apply (m.command cs stage)) :=
  rel_imp (fun _ _ hc => h.change hp hc) ((h.partOf hp hclear).answer hp hm stage)

end Footprint.Shows

end GuestPorts
