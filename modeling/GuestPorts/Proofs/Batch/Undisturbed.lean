/-
  GuestPorts/Proofs/Batch/Undisturbed.lean
  ========================================
  **Batches that fail only where they have to.**

  A stop takes out the jumps for its own addresses and deletes every chain that no jump
  leads to any more (`Footprint.foldl_stop`), so it clears away everything that is in order
  (`Orderly.stopped_eq_empty`).  A start puts everything in when nothing is there
  (`foldl_start`), and when any chain is there it ends before it links (`start_grown`).
-/
import GuestPorts.Proofs.Batch.Orderly

namespace GuestPorts

/-- The rules that a batch has for one chain, in its order. -/
def Batch.rulesFor (batch : Batch) (t : Table) (n : String) : List Rule :=
  (batch.filter fun c => c.table = t ∧ c.chain = n).map Command.rule

namespace Footprint

open Batch (Progress)

variable {f : Footprint} {host guest : Address}

/-! ### One task -/

theorem skips_nothing (stage : Stage) : ({} : Progress).skips stage = false := by
  cases stage <;> rfl

theorem perform_of_move {f' : Footprint} {t : Task} (h : f.move t.move = some f') :
    perform ({}, f) t = ({}, f') := by
  unfold perform attempt
  simp only [skips_nothing, h]
  rfl

/-- A task whose move is not possible is passed over, if its stage goes on. -/
theorem perform_of_stuck {t : Task} (h : f.move t.move = none)
    (ht : ({} : Progress).afterFailure t.stage = {}) : perform ({}, f) t = ({}, f) := by
  unfold perform attempt
  simp only [skips_nothing, h]
  exact congrArg (·, f) ht

theorem setJumps_self (f : Footprint) (g : Gate) : f.setJumps g (f.jumps g) = f := by
  refine ext (fun g' => ?_) fun r => rfl
  rw [jumps_setJumps]
  split
  · next h => rw [h]
  · rfl

theorem setChain_self (f : Footprint) (r : Role) : f.setChain r (f.chains r) = f := by
  refine ext (fun g => rfl) fun r' => ?_
  rw [chains_setChain]
  split
  · next h => rw [h]
  · rfl

theorem setChain_setChain (f : Footprint) (r : Role) (rs rs' : Option (List Rule)) :
    (f.setChain r rs).setChain r rs' = f.setChain r rs' := by
  refine ext (fun g => rfl) fun r' => ?_
  simp only [chains_setChain]
  split <;> rfl

theorem unlinked_setChain (f : Footprint) (r r' : Role) (rs : Option (List Rule)) :
    (f.setChain r rs).Unlinked r' ↔ f.Unlinked r' := Iff.rfl

/-! ### Stopping -/

theorem perform_unlink (f : Footprint) (g : Gate) (a : Address) :
    perform ({}, f) ⟨.unlink g a, .unlink⟩ = ({}, f.setJumps g ((f.jumps g).erase a)) := by
  by_cases ha : a ∈ f.jumps g
  · exact perform_of_move (if_pos ha)
  · rw [List.erase_of_not_mem ha, setJumps_self]
    exact perform_of_stuck (if_neg ha) rfl

theorem perform_flush (f : Footprint) (r : Role) :
    perform ({}, f) ⟨.flush r, .destroy⟩ = ({}, f.setChain r ((f.chains r).map fun _ => [])) := by
  cases hc : f.chains r with
  | none =>
    rw [Option.map_none, ← hc, setChain_self]
    exact perform_of_stuck (by rw [move, hc, Option.map_none]) rfl
  | some rs => exact perform_of_move (by rw [move, hc, Option.map_some, Option.map_some])

/-- What is left of a chain that is to be deleted. -/
def remnant (f : Footprint) (r : Role) : Option (List Rule) :=
  if f.Unlinked r then none else (f.chains r).map fun _ => []

/-- Flushing and discarding a chain leaves it behind only while jumps lead to it. -/
theorem perform_destroy (f : Footprint) (r : Role) :
    perform (perform ({}, f) ⟨.flush r, .destroy⟩) ⟨.discard r, .destroy⟩
      = ({}, f.setChain r (f.remnant r)) := by
  rw [perform_flush, remnant]
  by_cases hu : f.Unlinked r
  · rw [if_pos hu]
    cases hc : f.chains r with
    | none => exact perform_of_stuck (by simp [move]) rfl
    | some rs =>
      rw [Option.map_some, ← setChain_setChain f r (some []) none]
      refine perform_of_move (if_pos ⟨?_, hu⟩)
      rw [chains_setChain, if_pos rfl]
  · rw [if_neg hu]
    exact perform_of_stuck (if_neg fun h => hu ((unlinked_setChain f r r _).1 h.2)) rfl

def unlink (host guest : Address) (f : Footprint) : Footprint :=
  { f with jumps := fun g => (f.jumps g).erase (g.address host guest) }

def clear (f : Footprint) : Footprint := { f with chains := f.remnant }

/-- The footprint that a stop for some addresses leaves. -/
def stopped (host guest : Address) (f : Footprint) : Footprint := (f.unlink host guest).clear

theorem foldl_unlinks (f : Footprint) (host guest : Address) :
    (Task.unlinks host guest).foldl perform ({}, f) = ({}, f.unlink host guest) := by
  simp only [Task.unlinks, Gate.all, List.map_cons, List.map_nil, List.foldl_cons, List.foldl_nil,
    perform_unlink]
  refine congrArg _ (ext (fun g => ?_) fun r => rfl)
  cases g <;> simp [unlink]

theorem foldl_destroys (f : Footprint) :
    Task.destroys.foldl perform ({}, f) = ({}, f.clear) := by
  simp only [Task.destroys, Role.all, List.flatMap_cons, List.flatMap_nil, List.cons_append,
    List.nil_append, List.foldl_cons, List.foldl_nil, perform_destroy]
  refine congrArg _ (ext (fun g => rfl) fun r => ?_)
  cases r <;> simp [clear, remnant, unlinked_setChain]

/-- **A stop takes out its own jumps and every chain that nothing else jumps to.** -/
theorem foldl_stop (p : Batch.Plan) (f : Footprint) :
    p.stopTasks.foldl perform ({}, f) = ({}, f.stopped p.host p.guest) := by
  rw [Batch.Plan.stopTasks, List.foldl_append, foldl_unlinks, foldl_destroys]
  rfl

/-- When a stop takes out every jump, nothing is left. -/
theorem stopped_eq_empty (h : ∀ g, (f.jumps g).erase (g.address host guest) = []) :
    f.stopped host guest = .empty := by
  refine ext h fun r => ?_
  have hr : (f.unlink host guest).Unlinked r := fun g _ => h g
  exact if_pos hr

/-- What is in order is gone after a stop. -/
theorem Orderly.stopped_eq_empty (h : Orderly host guest f) : f.stopped host guest = .empty := by
  refine Footprint.stopped_eq_empty fun g => ?_
  rcases h.once g with hn | ho
  · rw [hn]
    rfl
  · rw [ho]
    simp

/-! ### Starting -/

/-- Everything that a start puts in. -/
def started (p : Batch.Plan) : Footprint where
  jumps := fun g => [g.address p.host p.guest]
  chains := fun r => some (p.populate.rulesFor r.table (p.chains.get r).name)

theorem perform_create {r : Role} (h : f.chains r = none) :
    perform ({}, f) ⟨.create r, .create⟩ = ({}, f.setChain r (some [])) :=
  perform_of_move (if_pos h)

theorem foldl_creates_empty :
    Task.creates.foldl perform ({}, .empty)
      = ({}, { jumps := fun _ => [], chains := fun _ => some [] }) := by
  simp only [Task.creates, Role.all, List.map_cons, List.map_nil, List.foldl_cons, List.foldl_nil]
  rw [perform_create rfl, perform_create (by simp [empty]), perform_create (by simp [empty])]
  refine congrArg _ (ext (fun g => rfl) fun r => ?_)
  cases r <;> simp

theorem perform_fill {r : Role} {args : List String} (n : Nat) {rs : List Rule}
    (h : f.chains r = some rs) :
    perform ({}, f) ⟨.fill r args, .populate n⟩
      = ({}, f.setChain r (some (rs ++ [.ofArgs args]))) :=
  perform_of_move (by rw [move, h, Option.map_some])

/-- Filling adds to each chain the rules for it, in their order. -/
theorem foldl_fills {cs : Chains} (hp : cs.Proper) {tasks : List Task}
    (htasks : ∀ t ∈ tasks, t.IsFill) (hf : ∀ r, (f.chains r).isSome) :
    tasks.foldl perform ({}, f)
      = ({}, { f with chains := fun r => (f.chains r).map fun rs =>
          rs ++ Batch.rulesFor (tasks.map (Task.command cs)) r.table (cs.get r).name }) := by
  induction tasks generalizing f with
  | nil => simp [Batch.rulesFor]
  | cons t rest ih =>
    obtain ⟨r, args, n, rfl, -⟩ := htasks t List.mem_cons_self
    obtain ⟨rs, hrs⟩ := Option.isSome_iff_exists.1 (hf r)
    have hfilled : ∀ r', ((f.setChain r (some (rs ++ [.ofArgs args]))).chains r').isSome := by
      intro r'
      rw [chains_setChain]
      split
      · rfl
      · exact hf r'
    rw [List.foldl_cons, perform_fill n hrs, ih (fun u hu => htasks u (List.mem_cons_of_mem _ hu))
      hfilled]
    refine congrArg _ (ext (fun g => rfl) fun r' => ?_)
    simp only [chains_setChain, Batch.rulesFor, List.map_cons, List.filter_cons, Task.command,
      Move.command]
    by_cases hr : r' = r
    · subst hr
      simp [hrs, Command.rule]
    · have hname : (cs.get r).name ≠ (cs.get r').name := fun he => hr (hp.name_inj he).symm
      simp [hr, hname]

theorem perform_link (f : Footprint) (g : Gate) (a : Address) (h : (f.chains g.role).isSome) :
    perform ({}, f) ⟨.link g a, .link⟩ = ({}, f.setJumps g (a :: f.jumps g)) := by
  obtain ⟨rs, hrs⟩ := Option.isSome_iff_exists.1 h
  exact perform_of_move (by rw [move, hrs, Option.map_some])

theorem foldl_links (host guest : Address) (hf : ∀ r, (f.chains r).isSome) :
    (Task.links host guest).foldl perform ({}, f)
      = ({}, { f with jumps := fun g => g.address host guest :: f.jumps g }) := by
  simp only [Task.links, Gate.all, List.map_cons, List.map_nil, List.foldl_cons, List.foldl_nil,
    perform_link, chains_setJumps, hf]
  refine congrArg _ (ext (fun g => ?_) fun r => rfl)
  cases g <;> simp

/-- What a start makes before it links anything. -/
theorem foldl_made {p : Batch.Plan} (hp : p.chains.Proper) :
    (Task.creates ++ p.fills).foldl perform ({}, .empty)
      = ({}, { started p with jumps := fun _ => [] }) := by
  rw [List.foldl_append, foldl_creates_empty, foldl_fills hp (fun t ht => p.isFill_of_mem_fills ht)
    (fun _ => rfl), ← p.populate_eq_map hp]
  rfl

/-- **A start puts everything in when nothing is there.** -/
theorem foldl_start {p : Batch.Plan} (hp : p.chains.Proper) :
    p.startTasks.foldl perform ({}, .empty) = ({}, started p) := by
  rw [Batch.Plan.startTasks, List.foldl_append, foldl_made hp,
    foldl_links p.host p.guest (fun _ => rfl)]
  rfl

/-- Performing tasks is attempting them while nothing fails without a reason. -/
theorem foldl_perform (tasks : List Task) (x : Progress × Footprint) :
    tasks.foldl perform x = (tasks.map fun t => (t, false)).foldl attempt x := by
  rw [List.foldl_map]
  rfl

/-- **A start that finds a chain ends before it links anything.** -/
theorem start_grown (p : Batch.Plan) {r : Role} (hr : (f.chains r).isSome) :
    Grown f (p.startTasks.foldl perform ({}, f)).2 := by
  have htrace : (Task.creates.map fun t => (t, false)).map Prod.fst = Task.creates := by
    rw [List.map_map]
    exact List.map_id _
  rw [Batch.Plan.startTasks, List.foldl_append, List.foldl_append]
  simp only [foldl_perform]
  obtain ⟨hgrown, hended | hfresh⟩ := foldl_creates htrace ({}, f)
  · rw [foldl_attempt_of_aborted hended, foldl_attempt_of_aborted hended]
    exact hgrown
  · rw [(hfresh r r.mem_all).1] at hr
    cases hr

end Footprint

end GuestPorts
