/-
  GuestPorts/Proofs/Batch/Calls.lean
  ==================================
  **The calls that running a batch makes**, each with the state that it is made in.

  The commands of the calls are those of the batch that are attempted, in the batch's order
  (`Batch.calls_sublist`), and all of them as long as none fails (`Batch.calls_of_success`).
  Between the calls nothing happens, so whatever every call leaves as it was is as it was
  when all of them are made (`Batch.kept_of_calls`).
-/
import GuestPorts.Proofs.Batch.Fate

namespace GuestPorts.Batch

variable {σ : Type} {run : Command → Effect σ RunnerError Unit}

def callsFrom (run : Command → Effect σ RunnerError Unit) (x : Progress × σ) :
    Batch → List (Command × σ)
  | [] => []
  | c :: rest =>
    if x.1.skips c.stage then callsFrom run (step run x c) rest
    else (c, x.2) :: callsFrom run (step run x c) rest

/-- The calls that a runner gets for a batch. -/
def calls (runner : Runner σ) (batch : Batch) (s : σ) : List (Command × σ) :=
  callsFrom runner.run ({}, s) batch

theorem attempts_sublist (runner : Runner σ) (batch : Batch) (s : σ) :
    (attempts (batch.entries runner s)).Sublist batch := by
  have hmap := (List.filter_sublist (p := fun e : Entry => e.fate ≠ .skipped)
    (l := batch.entries runner s)).map Entry.command
  rwa [map_command_entries] at hmap

/-- **What is called for is part of the batch, in its order.** -/
theorem calls_sublist (runner : Runner σ) (batch : Batch) (s : σ) :
    ((batch.execute runner.recorded (s, [])).2.2).Sublist batch := by
  rw [execute_recorded]
  exact attempts_sublist runner batch s

/-! ### A run without failures -/

theorem fate_of_no_failure {p : Progress} (hp : ∀ stage, p.skips stage = false) {batch : Batch}
    {s : σ} (h : ∀ e ∈ entriesFrom run (p, s) batch, e.failure? = none) :
    ∀ e ∈ entriesFrom run (p, s) batch, e.fate = .applied := by
  induction batch generalizing s with
  | nil => exact List.forall_mem_nil _
  | cons c rest ih =>
    rw [entriesFrom, List.forall_mem_cons] at h ⊢
    obtain ⟨hfirst, hrest⟩ := h
    have hskip : p.skips c.stage = false := hp c.stage
    rcases hrun : (run c).result s with ⟨e | u, s'⟩
    · simp [Entry.failure?, fateOf, hskip, hrun, Fate.error?] at hfirst
    · have hstep : step run (p, s) c = (p, s') := by
        simp [step, hskip, hrun]
      rw [hstep] at hrest ⊢
      exact ⟨by simp [fateOf, hskip, hrun], ih hrest⟩

/-- **As long as no command fails, every one is called for.** -/
theorem calls_of_success {runner : Runner σ} {batch : Batch} {s : σ}
    (h : (batch.execute runner s).1.failures = []) :
    (batch.execute runner.recorded (s, [])).2.2 = batch := by
  rw [execute_eq_ofEntries] at h
  have hfailures : ∀ e ∈ batch.entries runner s, e.failure? = none := List.filterMap_eq_nil_iff.1 h
  have happlied : ∀ e ∈ batch.entries runner s, e.fate = .applied :=
    fate_of_no_failure (fun stage => by cases stage <;> rfl) hfailures
  have hall : (batch.entries runner s).filter (fun e => e.fate ≠ .skipped)
      = batch.entries runner s := by
    refine List.filter_eq_self.2 fun e he => ?_
    simp [happlied e he]
  rw [execute_recorded]
  exact (congrArg (List.map Entry.command) hall).trans (map_command_entries runner batch s)

/-! ### What calls leave as it was -/

theorem kept_of_callsFrom {P : σ → Prop} {x : Progress × σ} {batch : Batch}
    (hcalls : ∀ call ∈ callsFrom run x batch, P call.2 → P ((run call.1).result call.2).2)
    (hx : P x.2) : P (batch.foldl (step run) x).2 := by
  induction batch generalizing x with
  | nil => exact hx
  | cons c rest ih =>
    rw [List.foldl_cons]
    by_cases hskip : x.1.skips c.stage = true
    -- a command that is skipped is no call and leaves the state alone
    · rw [callsFrom, if_pos hskip] at hcalls
      refine ih hcalls ?_
      simpa [step, hskip] using hx
    · rw [callsFrom, if_neg hskip, List.forall_mem_cons] at hcalls
      refine ih hcalls.2 ?_
      have hafter := hcalls.1 hx
      simp only [step, hskip]
      rcases hrun : (run c).result x.2 with ⟨e | u, s'⟩ <;> simpa [hrun] using hafter

/-- **What every call leaves as it was** is as it was when the batch was run. -/
theorem kept_of_calls {P : σ → Prop} {runner : Runner σ} {batch : Batch} {s : σ}
    (hcalls : ∀ call ∈ batch.calls runner s,
      P call.2 → P ((runner.run call.1).result call.2).2)
    (hs : P s) : P (batch.execute runner s).2 := by
  rw [snd_execute]
  exact kept_of_callsFrom hcalls hs

end GuestPorts.Batch
