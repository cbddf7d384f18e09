/-
  GuestPorts/Proofs/Batch/Work.lean
  =================================
  **A batch as work on a footprint.**

  Running a batch is a fold over its commands (`Batch.snd_execute`): what is carried along
  is the progress, which decides what is skipped, and the state.  A compiled batch is a
  list of tasks, each a move with its stage, and running it does to the kernel what
  attempting the tasks does to the footprint (`Runner.Drives.foldl_shows`), with the same
  tasks failing for no reason of their own.
-/
import GuestPorts.Batch.Execute
import GuestPorts.Proofs.Filter.Alone

namespace GuestPorts

/-! ### Running as a fold -/

namespace Batch

variable {σ : Type}

/-- The progress and the state behind one more command. -/
def step (run : Command → Effect σ RunnerError Unit) (x : Progress × σ) (c : Command) :
    Progress × σ :=
  if x.1.skips c.stage then x
  else
    match (run c).result x.2 with
    | (.ok (), s) => (x.1, s)
    | (.error _, s) => (x.1.afterFailure c.stage, s)

/-- The state that a batch leaves is the one that the fold ends in. -/
theorem snd_executeFrom (run : Command → Effect σ RunnerError Unit) (p : Progress)
    (batch : Batch) (s : σ) :
    (executeFrom run p batch s).2 = (batch.foldl (step run) (p, s)).2 := by
  induction batch generalizing p s with
  | nil => rfl
  | cons c rest ih =>
    simp only [executeFrom, List.foldl_cons, step]
    by_cases hskip : p.skips c.stage = true
    · rw [if_pos hskip, if_pos hskip]
      exact ih p s
    · rw [if_neg hskip, if_neg hskip]
      rcases (run c).result s with ⟨r, s'⟩
      cases r with
      | ok u => exact ih p s'
      | error e => exact ih (p.afterFailure c.stage) s'

theorem snd_execute (runner : Runner σ) (batch : Batch) (s : σ) :
    (batch.execute runner s).2 = (batch.foldl (step runner.run) ({}, s)).2 :=
  snd_executeFrom runner.run {} batch s

end Batch

/-! ### Tasks -/

/-- A move with the stage that it is made at. -/
structure Task where
  move : Move
  stage : Stage
  deriving DecidableEq, Repr

def Task.command (cs : Chains) (t : Task) : Command := t.move.command cs t.stage

@[simp] theorem Task.stage_command (cs : Chains) (t : Task) : (t.command cs).stage = t.stage := by
  unfold Task.command Move.command
  cases t.move <;> rfl

namespace Footprint

open Batch (Progress)

/-- The progress and the footprint behind one more task, which may fail although its move
    is possible. -/
def attempt (x : Progress × Footprint) (t : Task × Bool) : Progress × Footprint :=
  if x.1.skips t.1.stage then x
  else
    match t.2, x.2.move t.1.move with
    | false, some f => (x.1, f)
    | _, _ => (x.1.afterFailure t.1.stage, x.2)

def perform (x : Progress × Footprint) (t : Task) : Progress × Footprint :=
  attempt x (t, false)

/-- A footprint and a state at the same point of a batch. -/
structure Tracks {σ : Type} (kernel : σ → Kernel) (cs : Chains) (base : Kernel)
    (y : Progress × Footprint) (x : Progress × σ) : Prop where
  progress : x.1 = y.1
  shows : Shows cs base y.2 (kernel x.2)

end Footprint

namespace Runner.Drives

open Footprint (attempt Tracks)

variable {σ : Type} {runner : Runner σ} {kernel : σ → Kernel} {spurious : Command → σ → Prop}
  {cs : Chains} {base : Kernel}

/-- Running one command does to the kernel what its task does to the footprint. -/
theorem step_tracks (hd : runner.Drives kernel spurious) (hp : cs.Proper)
    (hclear : base.Clear cs) {y : Batch.Progress × Footprint} {x : Batch.Progress × σ}
    (h : Tracks kernel cs base y x) {t : Task} (ht : t.move.IsPlain) :
    ∃ fault : Bool, (fault = true → spurious (t.command cs) x.2) ∧
      Tracks kernel cs base (attempt y (t, fault)) (Batch.step runner.run x (t.command cs)) := by
  have hrel := h.shows.apply hp hclear ht t.stage
  unfold Batch.step attempt
  rw [Task.stage_command, h.progress]
  by_cases hskip : y.1.skips t.stage = true
  · refine ⟨false, nofun, ?_⟩
    rw [if_pos hskip, if_pos hskip]
    exact h
  · simp only [if_neg hskip]
    by_cases hs : spurious (t.command cs) x.2
    · obtain ⟨e, s', hrun, hk⟩ := hd.failed (t.command cs) x.2 (.inl hs)
      refine ⟨true, fun _ => hs, ?_⟩
      rw [hrun]
      exact ⟨rfl, hk ▸ h.shows⟩
    · refine ⟨false, nofun, ?_⟩
      generalize hmove : y.2.move t.move = o at hrel
      generalize happly : (kernel x.2).apply (t.move.command cs t.stage) = o' at hrel
      cases hrel with
      | some hshows =>
        obtain ⟨s', hrun, hk⟩ := hd.done (t.command cs) x.2 _ hs happly
        rw [hrun]
        exact ⟨rfl, hk ▸ hshows⟩
      | none =>
        obtain ⟨e, s', hrun, hk⟩ := hd.failed (t.command cs) x.2 (.inr happly)
        rw [hrun]
        exact ⟨rfl, hk ▸ h.shows⟩

/-- **Running a batch does to the kernel what attempting its tasks does to the footprint**,
    and only those tasks fail without a reason at which the runner does. -/
theorem foldl_tracks (hd : runner.Drives kernel spurious) (hp : cs.Proper)
    (hclear : base.Clear cs) {tasks : List Task} (htasks : ∀ t ∈ tasks, t.move.IsPlain)
    {y : Batch.Progress × Footprint} {x : Batch.Progress × σ} (h : Tracks kernel cs base y x) :
    ∃ trace : List (Task × Bool), trace.map Prod.fst = tasks ∧
      (∀ e ∈ trace, e.2 = true → ∃ c s, spurious c s) ∧
      Tracks kernel cs base (trace.foldl attempt y)
        ((tasks.map (Task.command cs)).foldl (Batch.step runner.run) x) := by
  induction tasks generalizing x y with
  | nil => exact ⟨[], rfl, nofun, h⟩
  | cons t rest ih =>
    obtain ⟨fault, hfault, hstep⟩ := hd.step_tracks hp hclear h (htasks t List.mem_cons_self)
    obtain ⟨trace, rfl, hfaults, hrest⟩ :=
      ih (fun u hu => htasks u (List.mem_cons_of_mem _ hu)) hstep
    refine ⟨(t, fault) :: trace, rfl, ?_, hrest⟩
    intro e he
    rcases List.mem_cons.1 he with rfl | hmem
    · exact fun hf => ⟨_, _, hfault hf⟩
    · exact hfaults e hmem

end Runner.Drives

end GuestPorts
