/-
  GuestPorts/Proofs/Batch/Orderly.lean
  ====================================
  **What stays in order when any tasks may fail.**

  At a gate stands at most one jump of the guest, it is for the declared address, and its
  chain is there (`Orderly`).  A stop keeps this because nothing deletes a chain that a
  jump leads to.  A start keeps it because it links nothing unless it has made all three
  chains itself (`foldl_creates`), and before that no jump can have led to them.
-/
import GuestPorts.Proofs.Batch.Tasks

namespace GuestPorts

namespace Footprint

open Batch (Progress)

/-! ### Any tasks, some of which fail -/

theorem attempt_of_aborted {x : Progress × Footprint} (h : x.1.aborted = true)
    (e : Task × Bool) : attempt x e = x := by
  unfold attempt Progress.skips
  rw [h, Bool.true_or, if_pos rfl]

theorem foldl_attempt_of_aborted {x : Progress × Footprint} (h : x.1.aborted = true)
    (trace : List (Task × Bool)) : trace.foldl attempt x = x := by
  induction trace with
  | nil => rfl
  | cons e rest ih => rw [List.foldl_cons, attempt_of_aborted h, ih]

/-- A task is skipped, fails, or makes its move. -/
theorem snd_attempt (x : Progress × Footprint) (e : Task × Bool) :
    (attempt x e).2 = x.2 ∨ x.2.move e.1.move = some (attempt x e).2 := by
  unfold attempt
  split
  · exact .inl rfl
  · split
    · next f hf => exact .inr hf
    · exact .inl rfl

/-- What every move of some tasks keeps, all the tasks keep, whichever of them fail. -/
theorem foldl_attempt_induction {P : Footprint → Prop} {trace : List (Task × Bool)}
    (h : ∀ e ∈ trace, ∀ f f', P f → f.move e.1.move = some f' → P f')
    {x : Progress × Footprint} (hx : P x.2) : P (trace.foldl attempt x).2 := by
  induction trace generalizing x with
  | nil => exact hx
  | cons e rest ih =>
    refine ih (fun e' he' => h e' (List.mem_cons_of_mem _ he')) ?_
    rcases snd_attempt x e with hsame | hmove
    · rw [hsame]
      exact hx
    · exact h e List.mem_cons_self x.2 _ hx hmove

/-! ### Creating the chains -/

/-- A creation makes a chain that was not there, or ends the batch. -/
theorem attempt_create (x : Progress × Footprint) (r : Role) (fault : Bool) :
    (attempt x (⟨.create r, .create⟩, fault)).2 = x.2 ∧
        (attempt x (⟨.create r, .create⟩, fault)).1.aborted = true ∨
      x.2.chains r = none ∧
        (attempt x (⟨.create r, .create⟩, fault)).2 = x.2.setChain r (some []) := by
  by_cases hx : x.1.aborted = true
  · rw [attempt_of_aborted hx]
    exact .inl ⟨rfl, hx⟩
  · have hskip : x.1.skips .create = false := by
      simp only [Bool.not_eq_true] at hx
      simp [Progress.skips, hx]
    unfold attempt
    simp only [hskip, Bool.false_eq_true, if_false, move]
    by_cases hc : x.2.chains r = none
    · cases fault with
      | true => exact .inl ⟨rfl, rfl⟩
      | false =>
        rw [if_pos hc]
        exact .inr ⟨hc, rfl⟩
    · rw [if_neg hc]
      cases fault <;> exact .inl ⟨rfl, rfl⟩

/-- The chains of a footprint are some of those before, or new and empty. -/
structure Grown (f f' : Footprint) : Prop where
  jumps : f'.jumps = f.jumps
  chains : ∀ r, f'.chains r = f.chains r ∨ f.chains r = none ∧ f'.chains r = some []

theorem Grown.refl (f : Footprint) : Grown f f := ⟨rfl, fun _ => .inl rfl⟩

theorem Grown.isSome {f f' : Footprint} (h : Grown f f') {r : Role}
    (hr : (f.chains r).isSome) : (f'.chains r).isSome := by
  rcases h.chains r with he | ⟨hn, -⟩
  · rw [he]
    exact hr
  · rw [hn] at hr
    cases hr

/-- Creations leave the jumps alone; if they do not end the batch, then none of the chains
    was there. -/
theorem foldl_creates {rs : List Role} {trace : List (Task × Bool)}
    (htrace : trace.map Prod.fst = rs.map fun r => ⟨.create r, .create⟩)
    (x : Progress × Footprint) :
    Grown x.2 (trace.foldl attempt x).2 ∧
      ((trace.foldl attempt x).1.aborted = true ∨
        ∀ r ∈ rs, x.2.chains r = none ∧ (trace.foldl attempt x).2.chains r = some []) := by
  induction rs generalizing x trace with
  | nil =>
    cases List.map_eq_nil_iff.1 htrace
    exact ⟨.refl x.2, .inr nofun⟩
  | cons r rs ih =>
    rw [List.map_cons] at htrace
    obtain ⟨⟨t, fault⟩, rest, rfl, rfl, hrest⟩ := List.map_eq_cons_iff.1 htrace
    rw [List.foldl_cons]
    rcases attempt_create x r fault with ⟨hsame, hended⟩ | ⟨hnone, hmade⟩
    · rw [foldl_attempt_of_aborted hended]
      exact ⟨hsame ▸ .refl x.2, .inl hended⟩
    · obtain ⟨⟨hjumps, hchains⟩, hend⟩ := ih hrest (attempt x (⟨.create r, .create⟩, fault))
      rw [hmade] at hjumps hchains hend
      generalize (rest.foldl attempt (attempt x (⟨.create r, .create⟩, fault))) = y at *
      have hr : y.2.chains r = some [] := by
        rcases hchains r with he | ⟨he, -⟩
        · rw [he, chains_setChain, if_pos rfl]
        · rw [chains_setChain, if_pos rfl] at he
          cases he
      refine ⟨⟨hjumps, fun r' => ?_⟩, hend.imp_right fun hall r' hr' => ?_⟩
      · by_cases he : r' = r
        · subst he
          exact .inr ⟨hnone, hr⟩
        · have hr' := hchains r'
          rwa [chains_setChain, if_neg he] at hr'
      · rcases List.mem_cons.1 hr' with rfl | hmem
        · exact ⟨hnone, hr⟩
        · -- a chain that is made twice would have ended the batch
          obtain ⟨hbefore, hafter⟩ := hall r' hmem
          refine ⟨?_, hafter⟩
          rw [chains_setChain] at hbefore
          split at hbefore
          · cases hbefore
          · exact hbefore

/-! ### Jumps in order -/

/-- At each gate stands at most the one jump for the declared address, and only while the
    chain is there that it leads to. -/
structure Orderly (host guest : Address) (f : Footprint) : Prop where
  once : ∀ g, f.jumps g = [] ∨ f.jumps g = [g.address host guest]
  linked : ∀ g, f.jumps g ≠ [] → (f.chains g.role).isSome

variable {host guest : Address} {f f' : Footprint}

theorem orderly_empty : Orderly host guest .empty where
  once := fun _ => .inl rfl
  linked := fun _ h => absurd rfl h

theorem Grown.orderly (h : Grown f f') (hf : Orderly host guest f) : Orderly host guest f' where
  once := fun g => by
    rw [h.jumps]
    exact hf.once g
  linked := fun g hg => by
    rw [h.jumps] at hg
    exact h.isSome (hf.linked g hg)

theorem Orderly.jumps_eq_nil (h : Orderly host guest f) {g : Gate}
    (hg : f.chains g.role = none) : f.jumps g = [] := by
  by_contra hne
  have hsome := h.linked g hne
  rw [hg] at hsome
  cases hsome

theorem Orderly.setChain (h : Orderly host guest f) (r : Role) (rs : List Rule) :
    Orderly host guest (f.setChain r (some rs)) := by
  refine ⟨h.once, fun g hg => ?_⟩
  rw [chains_setChain]
  split
  · rfl
  · exact h.linked g hg

/-- Only links can get jumps out of order. -/
theorem Orderly.of_move (h : Orderly host guest f) {m : Move} (hm : ∀ g a, m ≠ .link g a)
    (hmove : f.move m = some f') : Orderly host guest f' := by
  cases m with
  | create r =>
    simp only [move, Option.ite_none_right_eq_some, Option.some.injEq] at hmove
    obtain ⟨-, rfl⟩ := hmove
    exact h.setChain r []
  | fill r args =>
    obtain ⟨rs, -, rfl⟩ := Option.map_eq_some_iff.1 hmove
    exact h.setChain r (rs ++ [.ofArgs args])
  | flush r =>
    obtain ⟨rs, -, rfl⟩ := Option.map_eq_some_iff.1 hmove
    exact h.setChain r []
  | discard r =>
    simp only [move, Option.ite_none_right_eq_some, Option.some.injEq] at hmove
    obtain ⟨⟨-, hunlinked⟩, rfl⟩ := hmove
    refine ⟨h.once, fun g hg => ?_⟩
    rw [chains_setChain]
    split
    · next hr => exact absurd (hunlinked g hr) hg
    · exact h.linked g hg
  | link g a => exact absurd rfl (hm g a)
  | unlink g a =>
    simp only [move, Option.ite_none_right_eq_some, Option.some.injEq] at hmove
    obtain ⟨ha, rfl⟩ := hmove
    have hnil : (f.jumps g).erase a = [] := by
      rcases h.once g with hn | ho
      · rw [hn] at ha
        cases ha
      · rw [ho, List.mem_singleton] at ha
        rw [ho, ha]
        simp
    refine ⟨fun g' => ?_, fun g' hg' => h.linked g' fun hn => hg' ?_⟩
    · rw [jumps_setJumps]
      split
      · exact .inl hnil
      · exact h.once g'
    · rw [jumps_setJumps]
      split
      · exact hnil
      · exact hn

theorem foldl_attempt_orderly {trace : List (Task × Bool)}
    (htrace : ∀ t ∈ trace.map Prod.fst, ∀ g a, t.move ≠ .link g a) {x : Progress × Footprint}
    (hx : Orderly host guest x.2) : Orderly host guest (trace.foldl attempt x).2 :=
  foldl_attempt_induction
    (fun _ he _ _ hf hmove => hf.of_move (htrace _ (List.mem_map_of_mem he)) hmove) hx

/-- Every chain is there and nothing jumps to it yet. -/
structure Ready (f : Footprint) : Prop where
  unlinked : ∀ g, f.jumps g = []
  there : ∀ r, (f.chains r).isSome

theorem Ready.orderly (h : Ready f) : Orderly host guest f where
  once := fun g => .inl (h.unlinked g)
  linked := fun g hg => absurd (h.unlinked g) hg

theorem foldl_fills_ready {trace : List (Task × Bool)}
    (htrace : ∀ t ∈ trace.map Prod.fst, t.IsFill) {x : Progress × Footprint}
    (hx : Ready x.2) : Ready (trace.foldl attempt x).2 := by
  refine foldl_attempt_induction (fun e he f f' hf hmove => ?_) hx
  obtain ⟨r, args, n, ht, -⟩ := htrace e.1 (List.mem_map_of_mem he)
  rw [ht] at hmove
  obtain ⟨rs, -, rfl⟩ := Option.map_eq_some_iff.1 hmove
  refine ⟨hf.unlinked, fun r' => ?_⟩
  rw [chains_setChain]
  split
  · rfl
  · exact hf.there r'

/-- Linking gates that nothing stands at yet leaves the jumps in order. -/
theorem foldl_links_orderly {gs : List Gate} (hnodup : gs.Nodup) {trace : List (Task × Bool)}
    (htrace : trace.map Prod.fst = gs.map fun g => ⟨.link g (g.address host guest), .link⟩)
    {x : Progress × Footprint} (hx : Orderly host guest x.2) (hgs : ∀ g ∈ gs, x.2.jumps g = []) :
    Orderly host guest (trace.foldl attempt x).2 := by
  induction gs generalizing x trace with
  | nil =>
    cases List.map_eq_nil_iff.1 htrace
    exact hx
  | cons g gs ih =>
    rw [List.map_cons] at htrace
    obtain ⟨e, rest, rfl, he, hrest⟩ := List.map_eq_cons_iff.1 htrace
    obtain ⟨hg, hnodup⟩ := List.nodup_cons.1 hnodup
    have hmem : ∀ g' ∈ gs, x.2.jumps g' = [] := fun g' hg' => hgs g' (List.mem_cons_of_mem _ hg')
    rcases snd_attempt x e with hsame | hmove
    · refine ih hnodup hrest ?_ ?_
      · rw [hsame]
        exact hx
      · rw [hsame]
        exact hmem
    · rw [he] at hmove
      obtain ⟨rs, hrs, hf⟩ := Option.map_eq_some_iff.1 hmove
      rw [hgs g List.mem_cons_self] at hf
      refine ih hnodup hrest ?_ ?_
      · rw [← hf]
        refine ⟨fun g' => ?_, fun g' hg' => ?_⟩
        · rw [jumps_setJumps]
          split
          · next h => exact .inr (h ▸ rfl)
          · exact hx.once g'
        · rw [jumps_setJumps] at hg'
          split at hg'
          · next h =>
            rw [chains_setJumps, h, hrs]
            rfl
          · exact hx.linked g' hg'
      · intro g' hg'
        rw [← hf, jumps_setJumps, if_neg (fun h : g' = g => hg (h ▸ hg'))]
        exact hmem g' hg'

/-- **A start leaves the jumps in order**, whatever else of it fails. -/
theorem foldl_start_orderly {p : Batch.Plan} {trace : List (Task × Bool)}
    (htrace : trace.map Prod.fst = p.startTasks) {x : Progress × Footprint}
    (hx : Orderly p.host p.guest x.2) : Orderly p.host p.guest (trace.foldl attempt x).2 := by
  obtain ⟨made, links, rfl, hmade, hlinks⟩ := List.map_eq_append_iff.1 htrace
  obtain ⟨creates, fills, rfl, hcreates, hfills⟩ := List.map_eq_append_iff.1 hmade
  rw [List.foldl_append, List.foldl_append]
  obtain ⟨hgrown, hended | hfresh⟩ := foldl_creates hcreates x
  · rw [foldl_attempt_of_aborted hended, foldl_attempt_of_aborted hended]
    exact hgrown.orderly hx
  · -- no chain was there, so there were no jumps either, and each gate is linked once
    have hready : Ready (creates.foldl attempt x).2 := by
      refine ⟨fun g => ?_, fun r => ?_⟩
      · rw [hgrown.jumps]
        exact hx.jumps_eq_nil (hfresh g.role g.role.mem_all).1
      · rw [(hfresh r r.mem_all).2]
        rfl
    have hfilled : Ready (fills.foldl attempt (creates.foldl attempt x)).2 := by
      refine foldl_fills_ready (fun t ht => p.isFill_of_mem_fills ?_) hready
      rwa [← hfills]
    exact foldl_links_orderly (by decide) hlinks hfilled.orderly fun g _ => hfilled.unlinked g

/-- **A stop leaves the jumps in order**, whatever of it fails. -/
theorem foldl_stop_orderly {p : Batch.Plan} {trace : List (Task × Bool)}
    (htrace : trace.map Prod.fst = p.stopTasks) {x : Progress × Footprint}
    (hx : Orderly host guest x.2) : Orderly host guest (trace.foldl attempt x).2 := by
  refine foldl_attempt_orderly (fun t ht => ?_) hx
  rw [htrace] at ht
  exact p.ne_link_of_mem_stopTasks ht

end Footprint

end GuestPorts
