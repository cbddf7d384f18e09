/-
  GuestPorts/Proofs/Batch/Accounting.lean
  =======================================
  **A report accounts for every command of its batch** (`run_is_accounted_for`), whatever the
  stages of the commands and however the runner answers.

  The entries of a run have one fate for each place of the batch, and report and calls are
  read off them.  What is left to say is how the three lists hang together: the first critical
  failure is the last failure there is, because nothing behind it is attempted
  (`Batch.skipped_behind_critical`), and as long as nothing has failed nothing is skipped
  (`Batch.fate_of_no_failure`).
-/
import GuestPorts.Proofs.Batch.Calls

namespace GuestPorts

/-- What the report and the calls of the runner say of a batch, `es` being what became of the
    command at each place. -/
structure Accounts (batch : Batch) (es : List Entry) (report : Report) (calls : List Command) :
    Prop where
  places : es.map Entry.command = batch
  applied : report.applied = (es.filter fun e => e.fate = .applied).map Entry.command
  failures : report.failures = es.filterMap Entry.failure?
  skipped : report.skipped = (es.filter fun e => e.fate = .skipped).map Entry.command
  called : calls = (es.filter fun e => e.fate ≠ .skipped).map Entry.command
  aborted_iff : report.aborted = true ↔
    ∃ f ∈ report.failures, f.command.stage = .create ∨ f.command.stage = .link
  /-- A create or link that failed is the last failure, and the rest is skipped. -/
  last_failure : ∀ n c error, es[n]? = some ⟨c, .failed error⟩ →
    c.stage = .create ∨ c.stage = .link →
    report.failures.getLast? = some ⟨c, error⟩ ∧ ∀ e ∈ es.drop (n + 1), e.fate = .skipped
  failed_of_skipped : report.skipped ≠ [] → report.failures ≠ []
  success_iff : report.isSuccess = true ↔ report.applied = batch

namespace Entry

theorem failure?_eq_some_iff {e : Entry} {f : Failure} :
    e.failure? = some f ↔ e = ⟨f.command, .failed f.error⟩ := by
  obtain ⟨c, fate⟩ := e
  obtain ⟨d, error⟩ := f
  cases fate <;> simp [failure?, Fate.error?]

theorem failure?_of_applied {e : Entry} (h : e.fate = .applied) : e.failure? = none := by
  simp [failure?, h, Fate.error?]

theorem failure?_of_skipped {e : Entry} (h : e.fate = .skipped) : e.failure? = none := by
  simp [failure?, h, Fate.error?]

end Entry

namespace Batch

variable {σ : Type} {run : Command → Effect σ RunnerError Unit}

/-! ### Behind a critical failure -/

theorem step_of_aborted {x : Progress × σ} (h : x.1.aborted = true) (c : Command) :
    step run x c = x := by
  simp [step, Progress.skips, h]

theorem skipped_of_aborted {x : Progress × σ} (h : x.1.aborted = true) (batch : Batch) :
    ∀ e ∈ entriesFrom run x batch, e.fate = .skipped := by
  induction batch with
  | nil => exact List.forall_mem_nil _
  | cons c rest ih =>
    rw [entriesFrom, List.forall_mem_cons]
    constructor
    · apply (fateOf_eq_skipped_iff run x c).2
      simp [Progress.skips, h]
    · rw [step_of_aborted h]
      exact ih

theorem drop_entriesFrom (x : Progress × σ) (batch : Batch) (n : Nat) :
    (entriesFrom run x batch).drop n
      = entriesFrom run ((batch.take n).foldl (step run) x) (batch.drop n) := by
  induction batch generalizing x n with
  | nil => simp [entriesFrom]
  | cons c rest ih =>
    cases n with
    | zero => rfl
    | succ n => simp [entriesFrom, ih]

/-- **Nothing behind a failed create or link is attempted.** -/
theorem skipped_behind_critical {runner : Runner σ} {batch : Batch} {s : σ} {n : Nat} {e : Entry}
    (hn : (batch.entries runner s)[n]? = some e) (hcritical : e.command.stage.isCritical = true)
    (hfailed : e.fate.error?.isSome = true) :
    ∀ e' ∈ (batch.entries runner s).drop (n + 1), e'.fate = .skipped := by
  unfold entries at hn ⊢
  rw [drop_entriesFrom]
  apply skipped_of_aborted
  have htake : e ∈ entriesFrom runner.run ({}, s) (batch.take (n + 1)) := by
    rw [← take_entriesFrom]
    exact List.mem_of_getElem? (List.getElem?_take_of_lt (Nat.lt_succ_self n) ▸ hn)
  rw [aborted_foldl_step, Bool.or_eq_true]
  right
  apply List.any_eq_true.2
  exact ⟨e, htake, by rw [hcritical, hfailed]; rfl⟩

/-! ### The three lists -/

theorem failures_eq_nil_iff {es : List Entry} :
    (Report.ofEntries es).failures = [] ↔ ∀ e ∈ es, e.failure? = none :=
  List.filterMap_eq_nil_iff

theorem applied_eq_map_iff {es : List Entry} :
    (Report.ofEntries es).applied = es.map Entry.command ↔ ∀ e ∈ es, e.fate = .applied := by
  constructor
  · intro h e he
    have hlength := congrArg List.length h
    simp only [Report.ofEntries, List.length_map] at hlength
    simpa using List.length_filter_eq_length_iff.1 hlength e he
  · intro h
    apply congrArg (List.map Entry.command)
    apply List.filter_eq_self.2
    intro e he
    simpa using h e he

theorem skipped_eq_nil_of_applied {es : List Entry} (h : ∀ e ∈ es, e.fate = .applied) :
    (Report.ofEntries es).skipped = [] := by
  apply List.map_eq_nil_iff.2
  apply List.filter_eq_nil_iff.2
  intro e he
  simp [h e he]

/-- **As long as nothing fails, everything is applied.** -/
theorem applied_of_no_failures {runner : Runner σ} {batch : Batch} {s : σ}
    (h : (Report.ofEntries (batch.entries runner s)).failures = []) :
    ∀ e ∈ batch.entries runner s, e.fate = .applied := by
  apply fate_of_no_failure
  · intro stage
    cases stage <;> rfl
  · exact failures_eq_nil_iff.1 h

theorem isSuccess_iff (runner : Runner σ) (batch : Batch) (s : σ) :
    (Report.ofEntries (batch.entries runner s)).isSuccess = true ↔
      (Report.ofEntries (batch.entries runner s)).applied = batch := by
  have happlied := @applied_eq_map_iff (batch.entries runner s)
  rw [map_command_entries] at happlied
  rw [happlied, Report.isSuccess, Bool.and_eq_true, List.isEmpty_iff, List.isEmpty_iff]
  constructor
  · intro h
    exact applied_of_no_failures h.1
  · intro h
    constructor
    · apply failures_eq_nil_iff.2
      intro e he
      exact Entry.failure?_of_applied (h e he)
    · exact skipped_eq_nil_of_applied h

theorem aborted_ofEntries_iff (es : List Entry) :
    (Report.ofEntries es).aborted = true ↔
      ∃ f ∈ (Report.ofEntries es).failures, f.command.stage.isCritical = true := by
  simp only [Report.ofEntries, List.any_eq_true, List.mem_filterMap, Bool.and_eq_true]
  constructor
  · rintro ⟨e, he, hcritical, hfailed⟩
    obtain ⟨error, herror⟩ := Option.isSome_iff_exists.1 hfailed
    exact ⟨⟨e.command, error⟩, ⟨e, he, by simp [Entry.failure?, herror]⟩, hcritical⟩
  · rintro ⟨f, ⟨e, he, hf⟩, hcritical⟩
    rw [Entry.failure?_eq_some_iff] at hf
    subst hf
    exact ⟨_, he, hcritical, rfl⟩

/-- Where everything behind a failure is skipped, it is the last one of the report. -/
theorem getLast?_failures {es : List Entry} {n : Nat} {c : Command} {error : RunnerError}
    (hn : es[n]? = some ⟨c, .failed error⟩)
    (hrest : ∀ e ∈ es.drop (n + 1), e.fate = .skipped) :
    (Report.ofEntries es).failures.getLast? = some ⟨c, error⟩ := by
  have hsplit : es = es.take n ++ ⟨c, .failed error⟩ :: es.drop (n + 1) := by
    obtain ⟨hlt, he⟩ := List.getElem?_eq_some_iff.1 hn
    rw [← he, ← List.drop_eq_getElem_cons hlt, List.take_append_drop]
  have hnone : (es.drop (n + 1)).filterMap Entry.failure? = [] := by
    apply List.filterMap_eq_nil_iff.2
    intro e he
    exact Entry.failure?_of_skipped (hrest e he)
  simp only [Report.ofEntries]
  rw [hsplit, List.filterMap_append, List.filterMap_cons, hnone]
  simp [Entry.failure?, Fate.error?]

/-! ### The calls -/

theorem fateOf_recorded (runner : Runner σ) (p : Progress) (s : σ) (calls : List Command)
    (c : Command) :
    fateOf runner.recorded.run (p, s, calls) c = fateOf runner.run (p, s) c := rfl

theorem entriesFrom_recorded (runner : Runner σ) (p : Progress) (s : σ) (calls : List Command)
    (batch : Batch) :
    entriesFrom runner.recorded.run (p, s, calls) batch = entriesFrom runner.run (p, s) batch := by
  induction batch generalizing p s calls with
  | nil => rfl
  | cons c rest ih => rw [entriesFrom, entriesFrom, fateOf_recorded, step_recorded, ih]

/-- **Writing the calls down changes nothing else about a run.** -/
theorem execute_recorded_eq (runner : Runner σ) (batch : Batch) (s : σ) :
    batch.execute runner.recorded (s, [])
      = ((batch.execute runner s).1, (batch.execute runner s).2,
          attempts (batch.entries runner s)) := by
  apply Prod.ext
  · rw [execute_eq_ofEntries, execute_eq_ofEntries]
    exact congrArg Report.ofEntries (entriesFrom_recorded runner {} s [] batch)
  · exact execute_recorded runner batch s

end Batch

/-- **A report accounts for every command of its batch**: each is applied, failed or skipped,
    the runner is called once for those that are not skipped and in their order, a failed
    create or link is the end of it, and there is no skipping without a failure. -/
theorem run_is_accounted_for {σ : Type} (runner : Runner σ) (batch : Batch) (s : σ) :
    ∃ calls, batch.execute runner.recorded (s, [])
        = ((batch.execute runner s).1, (batch.execute runner s).2, calls) ∧
      Accounts batch (batch.entries runner s) (batch.execute runner s).1 calls := by
  refine ⟨_, Batch.execute_recorded_eq runner batch s, ?_⟩
  rw [Batch.execute_eq_ofEntries]
  constructor
  case places => exact Batch.map_command_entries runner batch s
  case applied => rfl
  case failures => rfl
  case skipped => rfl
  case called => rfl
  case aborted_iff =>
    simp only [← Stage.isCritical_iff]
    exact Batch.aborted_ofEntries_iff _
  case last_failure =>
    intro n c error hn hstage
    have hrest := Batch.skipped_behind_critical hn (Stage.isCritical_iff.2 hstage) rfl
    exact ⟨Batch.getLast?_failures hn hrest, hrest⟩
  case failed_of_skipped =>
    intro hskipped hfailures
    apply hskipped
    exact Batch.skipped_eq_nil_of_applied (Batch.applied_of_no_failures hfailures)
  case success_iff => exact Batch.isSuccess_iff runner batch s

end GuestPorts
