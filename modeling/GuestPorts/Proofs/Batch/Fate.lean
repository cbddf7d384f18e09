/-
  GuestPorts/Proofs/Batch/Fate.lean
  =================================
  **What becomes of each command of a batch**, for any batch and any runner.

  A report says which commands were applied, failed or were skipped, but not at which place of
  the batch each of them stood.  The entries of a run say that, and the report is read off
  them (`Batch.execute_eq_ofEntries`).

  What can hold a command up is one thing, the end of the batch: as long as every create and
  link before a command was applied, the command is attempted, unless it belongs to a block
  that has failed (`Batch.attempted_iff`).
-/
import GuestPorts.Proofs.Batch.Work

namespace GuestPorts

theorem Stage.isCritical_iff {stage : Stage} :
    stage.isCritical = true ↔ stage = .create ∨ stage = .link := by
  cases stage <;> simp [isCritical]

inductive Fate where
  | applied
  | failed (e : RunnerError)
  | skipped
  deriving DecidableEq, Repr

def Fate.error? : Fate → Option RunnerError
  | .failed e => some e
  | _ => none

theorem Fate.isSome_error?_iff {fate : Fate} :
    fate.error?.isSome = true ↔ ∃ e, fate = .failed e := by
  cases fate <;> simp [error?]

/-- One place of a batch: the command that stands there and what became of it. -/
structure Entry where
  command : Command
  fate : Fate
  deriving DecidableEq, Repr

def Entry.failure? (e : Entry) : Option Failure := e.fate.error?.map fun x => ⟨e.command, x⟩

def Report.ofEntries (es : List Entry) : Report where
  applied := (es.filter fun e => e.fate = .applied).map Entry.command
  failures := es.filterMap Entry.failure?
  skipped := (es.filter fun e => e.fate = .skipped).map Entry.command
  aborted := es.any fun e => e.command.stage.isCritical && e.fate.error?.isSome

/-- The runner, with the commands that it was called for. -/
def Runner.recorded {σ : Type} (runner : Runner σ) : Runner (σ × List Command) where
  program := runner.program
  run := fun c => Effect.ofFunction fun x =>
    let (r, s) := (runner.run c).result x.1
    (r, s, x.2 ++ [c])

namespace Batch

variable {σ : Type}

/-- What becomes of a command behind those that made this progress. -/
def fateOf (run : Command → Effect σ RunnerError Unit) (x : Progress × σ) (c : Command) :
    Fate :=
  if x.1.skips c.stage then .skipped
  else
    match ((run c).result x.2).1 with
    | .ok () => .applied
    | .error e => .failed e

def entriesFrom (run : Command → Effect σ RunnerError Unit) (x : Progress × σ) :
    Batch → List Entry
  | [] => []
  | c :: rest => ⟨c, fateOf run x c⟩ :: entriesFrom run (step run x c) rest

def entries (runner : Runner σ) (batch : Batch) (s : σ) : List Entry :=
  entriesFrom runner.run ({}, s) batch

variable {run : Command → Effect σ RunnerError Unit}

/-! ### Places -/

theorem map_command_entriesFrom (x : Progress × σ) (batch : Batch) :
    (entriesFrom run x batch).map Entry.command = batch := by
  induction batch generalizing x with
  | nil => rfl
  | cons c rest ih => simp [entriesFrom, ih]

theorem map_command_entries (runner : Runner σ) (batch : Batch) (s : σ) :
    (batch.entries runner s).map Entry.command = batch :=
  map_command_entriesFrom ({}, s) batch

theorem command_mem {x : Progress × σ} {batch : Batch} {e : Entry}
    (h : e ∈ entriesFrom run x batch) : e.command ∈ batch := by
  have hmem := List.mem_map_of_mem (f := Entry.command) h
  rwa [map_command_entriesFrom] at hmem

theorem take_entriesFrom (x : Progress × σ) (batch : Batch) (n : Nat) :
    (entriesFrom run x batch).take n = entriesFrom run x (batch.take n) := by
  induction batch generalizing x n with
  | nil => simp [entriesFrom]
  | cons c rest ih =>
    cases n with
    | zero => rfl
    | succ n => simp [entriesFrom, ih]

theorem getElem?_entriesFrom (x : Progress × σ) (batch : Batch) (n : Nat) :
    (entriesFrom run x batch)[n]?
      = batch[n]?.map fun c => ⟨c, fateOf run ((batch.take n).foldl (step run) x) c⟩ := by
  induction batch generalizing x n with
  | nil => simp [entriesFrom]
  | cons c rest ih =>
    cases n with
    | zero => simp [entriesFrom]
    | succ n => simp [entriesFrom, ih]

/-! ### The report -/

/-- What a command does to the progress is read off its entry. -/
theorem aborted_step (x : Progress × σ) (c : Command) :
    (step run x c).1.aborted
      = (x.1.aborted || (c.stage.isCritical && (fateOf run x c).error?.isSome)) := by
  simp only [step, fateOf]
  split
  · simp [Fate.error?]
  · split
    · next hrun => simp [hrun, Fate.error?]
    · next hrun =>
      simp only [hrun, Fate.error?, Option.isSome_some, Bool.and_true]
      cases c.stage <;> simp [Progress.afterFailure, Stage.isCritical]

theorem aborted_foldl_step (x : Progress × σ) (batch : Batch) :
    (batch.foldl (step run) x).1.aborted
      = (x.1.aborted || (entriesFrom run x batch).any fun e =>
          e.command.stage.isCritical && e.fate.error?.isSome) := by
  induction batch generalizing x with
  | nil => simp [entriesFrom]
  | cons c rest ih => simp [entriesFrom, ih, aborted_step, Bool.or_assoc]

theorem executeFrom_eq_ofEntries (run : Command → Effect σ RunnerError Unit) (p : Progress)
    (batch : Batch) (s : σ) :
    (executeFrom run p batch s).1
      = { Report.ofEntries (entriesFrom run (p, s) batch) with
          aborted := (batch.foldl (step run) (p, s)).1.aborted } := by
  induction batch generalizing p s with
  | nil => rfl
  | cons c rest ih =>
    simp only [executeFrom, entriesFrom, List.foldl_cons, fateOf, step]
    by_cases hskip : p.skips c.stage = true
    · simp [hskip, ih, Report.ofEntries, Entry.failure?, Fate.error?, List.filterMap_cons]
    · rcases (run c).result s with ⟨⟨⟩ | e, s'⟩
      · simp [hskip, ih, Report.ofEntries, Entry.failure?, Fate.error?]
      · simp [hskip, ih, Report.ofEntries, Entry.failure?, Fate.error?, List.filterMap_cons]

/-- **The report of a batch is what its entries say.** -/
theorem execute_eq_ofEntries (runner : Runner σ) (batch : Batch) (s : σ) :
    (batch.execute runner s).1 = Report.ofEntries (batch.entries runner s) := by
  have h := executeFrom_eq_ofEntries runner.run {} batch s
  rw [aborted_foldl_step, Bool.false_or] at h
  exact h

/-! ### Attempts -/

def attempts (es : List Entry) : List Command :=
  (es.filter fun e => e.fate ≠ .skipped).map Entry.command

theorem skips_of_not_populate {stage : Stage} (h : ∀ block, stage ≠ .populate block)
    (p : Progress) : p.skips stage = p.aborted := by
  cases stage with
  | populate block => exact absurd rfl (h block)
  | _ => simp [Progress.skips]

theorem fateOf_eq_skipped_iff (run : Command → Effect σ RunnerError Unit) (x : Progress × σ)
    (c : Command) : fateOf run x c = .skipped ↔ x.1.skips c.stage = true := by
  unfold fateOf
  split
  · next hskip => simp [hskip]
  · next hskip =>
    split <;> simp [hskip]

theorem step_recorded (runner : Runner σ) (p : Progress) (s : σ) (calls : List Command)
    (c : Command) :
    step runner.recorded.run (p, s, calls) c
      = ((step runner.run (p, s) c).1, (step runner.run (p, s) c).2,
          calls ++ attempts [⟨c, fateOf runner.run (p, s) c⟩]) := by
  by_cases hskip : p.skips c.stage = true
  · simp [step, fateOf, attempts, hskip]
  · have hattempted := mt (fateOf_eq_skipped_iff runner.run (p, s) c).1 hskip
    simp only [step, attempts, hskip, Runner.recorded, Effect.ofFunction, Effect.result]
    rcases (runner.run c) s with ⟨⟨⟩ | e, s'⟩ <;> simp [hattempted]

theorem foldl_step_recorded (runner : Runner σ) (p : Progress) (s : σ) (calls : List Command)
    (batch : Batch) :
    batch.foldl (step runner.recorded.run) (p, s, calls)
      = ((batch.foldl (step runner.run) (p, s)).1, (batch.foldl (step runner.run) (p, s)).2,
          calls ++ attempts (entriesFrom runner.run (p, s) batch)) := by
  induction batch generalizing p s calls with
  | nil => simp [attempts, entriesFrom]
  | cons c rest ih =>
    rw [List.foldl_cons, step_recorded, ih, List.append_assoc]
    simp only [attempts, entriesFrom, ← List.map_append, ← List.filter_append]
    rfl

/-- **The runner is called for the commands that are attempted**, once for each and in their
    order. -/
theorem execute_recorded (runner : Runner σ) (batch : Batch) (s : σ) :
    (batch.execute runner.recorded (s, [])).2
      = ((batch.execute runner s).2, attempts (batch.entries runner s)) := by
  rw [snd_execute, foldl_step_recorded, snd_execute]
  rfl

/-- A batch goes on behind a command unless that is a create or link and was not applied. -/
theorem goesOn_step_iff (x : Progress × σ) (c : Command) :
    (step run x c).1.aborted = false ↔
      x.1.aborted = false ∧ (c.stage.isCritical = true → fateOf run x c = .applied) := by
  rw [aborted_step, Bool.or_eq_false_iff]
  refine and_congr_right fun hgoes => ?_
  cases hc : c.stage.isCritical with
  | false => simp
  | true =>
    have hskips : x.1.skips c.stage = false := by
      rw [skips_of_not_populate (fun block hb => by rw [hb] at hc; cases hc), hgoes]
    have hattempted : fateOf run x c ≠ .skipped := by
      rw [Ne, fateOf_eq_skipped_iff, hskips]
      exact Bool.false_ne_true
    cases ho : fateOf run x c with
    | skipped => exact absurd ho hattempted
    | applied => simp [Fate.error?]
    | failed e => simp [Fate.error?]

/-- A batch goes on for as long as each of its creates and links is applied. -/
theorem goesOn_foldl_step_iff (x : Progress × σ) (batch : Batch) :
    (batch.foldl (step run) x).1.aborted = false ↔
      x.1.aborted = false ∧
        ∀ e ∈ entriesFrom run x batch, e.command.stage.isCritical = true → e.fate = .applied := by
  induction batch generalizing x with
  | nil => simp [entriesFrom]
  | cons c rest ih =>
    rw [List.foldl_cons, ih, goesOn_step_iff, and_assoc]
    simp [entriesFrom]

section Places

variable {runner : Runner σ} {batch : Batch} {s : σ} {n : Nat} {e : Entry}

/-- A command is attempted only when every create and link before it was applied. -/
theorem applied_of_attempted (h : (batch.entries runner s)[n]? = some e)
    (he : e.fate ≠ .skipped) :
    ∀ e' ∈ (batch.entries runner s).take n, e'.command.stage.isCritical = true →
      e'.fate = .applied := by
  rw [entries, getElem?_entriesFrom] at h
  obtain ⟨c, -, rfl⟩ := Option.map_eq_some_iff.1 h
  rw [entries, take_entriesFrom]
  refine ((goesOn_foldl_step_iff ({}, s) (batch.take n)).1 ?_).2
  by_contra haborted
  refine he ((fateOf_eq_skipped_iff runner.run _ c).2 ?_)
  simp only [Bool.not_eq_false] at haborted
  simp [Progress.skips, haborted]

/-- **What holds a command up** that fills no chain: one of the creates and links before it. -/
theorem attempted_iff (h : (batch.entries runner s)[n]? = some e)
    (hstage : ∀ block, e.command.stage ≠ .populate block) :
    e.fate ≠ .skipped ↔
      ∀ e' ∈ (batch.entries runner s).take n, e'.command.stage.isCritical = true →
        e'.fate = .applied := by
  refine ⟨applied_of_attempted h, fun happlied => ?_⟩
  rw [entries, getElem?_entriesFrom] at h
  obtain ⟨c, -, rfl⟩ := Option.map_eq_some_iff.1 h
  rw [entries, take_entriesFrom] at happlied
  have hgoes := (goesOn_foldl_step_iff ({}, s) (batch.take n)).2 ⟨rfl, happlied⟩
  rw [Ne, fateOf_eq_skipped_iff, skips_of_not_populate hstage, hgoes]
  exact Bool.false_ne_true

end Places

end Batch

end GuestPorts
