/-
  GuestPorts/Proofs/Batch/Interleaving.lean
  =========================================
  **Two guests whose batches run at the same time.**

  A worker takes the batches of one guest one command at a time (`Batch.Worker.step`); two
  workers on one state take turns in any order (`Batch.Pair.run`).  Beside such a pair runs
  a worker on its own: the two see the same part of the guest in their kernels, so that
  every command comes out the same for both, and what the other guest's worker does stays
  out of that part (`Batch.Alike.step`).  So neither guest notices the other
  (`guests_do_not_interfere`).
-/
import GuestPorts.Proofs.Batch.Event
import GuestPorts.Proofs.Filter.Part
import GuestPorts.Proofs.Registry.Aliases

namespace GuestPorts

def Report.append (r r' : Report) : Report where
  applied := r.applied ++ r'.applied
  failures := r.failures ++ r'.failures
  skipped := r.skipped ++ r'.skipped
  aborted := r'.aborted

namespace Batch

variable {σ : Type}

def executeAll (runner : Runner σ) : List Batch → σ → List Report × σ
  | [], s => ([], s)
  | batch :: more, s =>
    let (r, s) := batch.execute runner s
    let (rs, s) := executeAll runner more s
    (r :: rs, s)

/-! ### One command at a time -/

/-- Batches that are being worked on: the first one is under way, with the progress and the
    report so far; the reports on those before it are complete. -/
structure Worker where
  batches : List Batch
  progress : Progress := {}
  report : Report := {}
  reports : List Report := []

namespace Worker

/-- What a command that was run adds. -/
def record (w : Worker) (c : Command) : Except RunnerError Unit → Worker
  | .ok () => { w with report := { w.report with applied := w.report.applied ++ [c] } }
  | .error e =>
    { w with
      progress := w.progress.afterFailure c.stage
      report := { w.report with failures := w.report.failures ++ [⟨c, e⟩] } }

/-- Skip or run the next command, or close the report when there is none in the batch. -/
def step (runner : Runner σ) (w : Worker) (s : σ) : Worker × σ :=
  match w.batches with
  | [] => (w, s)
  | [] :: more =>
    ({ batches := more
       reports := w.reports ++ [{ w.report with aborted := w.progress.aborted }] }, s)
  | (c :: rest) :: more =>
    if w.progress.skips c.stage then
      ({ w with
         batches := rest :: more
         report := { w.report with skipped := w.report.skipped ++ [c] } }, s)
    else
      let (r, s) := (runner.run c).result s
      ({ w with batches := rest :: more }.record c r, s)

/-- The reports and the state when the rest is run without a pause. -/
def finish (runner : Runner σ) (w : Worker) (s : σ) : List Report × σ :=
  match w.batches with
  | [] => (w.reports, s)
  | batch :: more =>
    let (r, s) := executeFrom runner.run w.progress batch s
    let (rs, s) := executeAll runner more s
    (w.reports ++ w.report.append r :: rs, s)

theorem finish_start (runner : Runner σ) (batches : List Batch) (s : σ) :
    finish runner { batches } s = executeAll runner batches s := by
  cases batches with
  | nil => rfl
  | cons batch more => simp [finish, executeAll, execute, Report.append]

/-- Pausing behind a command changes nothing. -/
theorem finish_step (runner : Runner σ) (w : Worker) (s : σ) :
    finish runner (w.step runner s).1 (w.step runner s).2 = finish runner w s := by
  obtain ⟨batches, p, r, rs⟩ := w
  match batches with
  | [] => rfl
  | [] :: more =>
    have hclosed : r.append { aborted := p.aborted } = { r with aborted := p.aborted } := by
      simp [Report.append]
    simp only [step, finish, executeFrom, hclosed]
    cases more with
    | nil => simp [executeAll]
    | cons batch more => simp [executeAll, execute, Report.append]
  | (c :: rest) :: more =>
    by_cases hskip : p.skips c.stage = true
    · simp [step, finish, executeFrom, hskip, Report.append]
    · rcases hrun : (runner.run c).result s with ⟨⟨⟩ | e, s'⟩
      · simp [step, finish, executeFrom, hskip, hrun, record, Report.append]
      · simp [step, finish, executeFrom, hskip, hrun, record, Report.append]

end Worker

/-! ### Two workers -/

/-- Whose command is next. -/
inductive Turn where
  | mine
  | theirs
  deriving DecidableEq, Repr

/-- Two workers on one state. -/
structure Pair (σ : Type) where
  mine : Worker
  theirs : Worker
  state : σ

namespace Pair

def step (runner : Runner σ) (x : Pair σ) : Turn → Pair σ
  | .mine =>
    let (w, s) := x.mine.step runner x.state
    { x with mine := w, state := s }
  | .theirs =>
    let (w, s) := x.theirs.step runner x.state
    { x with theirs := w, state := s }

def run (runner : Runner σ) (x : Pair σ) (turns : List Turn) : Pair σ :=
  turns.foldl (step runner) x

end Pair

/-! ### What a worker does to its guest's part -/

/-- All commands are moves on one guest's part. -/
def WorksOn (cs : Chains) (batches : List Batch) : Prop :=
  ∀ batch ∈ batches, ∀ c ∈ batch, ∃ m : Move, m.IsPlain ∧ ∃ stage, c = m.command cs stage

section Parts

open Footprint (PartOf)

variable {runner : Runner σ} {kernel : σ → Kernel} {complaint : Command → Refusal → RunnerError}
  {cs cs' : Chains} {f : Footprint} {s s' : σ}

/-- **In two states with the same part of a guest, a command of the guest has the same result**
    and the same effect on that part; around it nothing changes. -/
theorem result_of_parts (hd : runner.Drives kernel Runner.never)
    (hexplains : runner.Explains kernel complaint) (hp : cs.Proper) {m : Move} (hm : m.IsPlain)
    (stage : Stage) (h : PartOf cs f (kernel s)) (h' : PartOf cs f (kernel s')) :
    ∃ r t t' f', (runner.run (m.command cs stage)).result s = (r, t) ∧
      (runner.run (m.command cs stage)).result s' = (r, t') ∧
      PartOf cs f' (kernel t) ∧ PartOf cs f' (kernel t') ∧ (kernel s).Frame cs (kernel t) := by
  have hrel := h.apply hp hm stage
  have hrel' := h'.apply hp hm stage
  generalize hmove : f.move m = moved at hrel hrel'
  cases moved with
  | some f' =>
    generalize happly : (kernel s).apply (m.command cs stage) = o at hrel
    generalize happly' : (kernel s').apply (m.command cs stage) = o' at hrel'
    cases hrel with
    | some hpart =>
      cases hrel' with
      | some hpart' =>
        obtain ⟨t, hrun, ht⟩ := hd.done _ s _ not_false happly
        obtain ⟨t', hrun', ht'⟩ := hd.done _ s' _ not_false happly'
        exact ⟨.ok (), t, t', f', hrun, hrun', ht ▸ hpart.1, ht' ▸ hpart'.1, ht ▸ hpart.2⟩
  | none =>
    generalize happly : (kernel s).apply (m.command cs stage) = o at hrel
    generalize happly' : (kernel s').apply (m.command cs stage) = o' at hrel'
    cases hrel
    cases hrel'
    obtain ⟨e, t, hrun, ht⟩ := hd.failed _ s (.inr happly)
    obtain ⟨e', t', hrun', ht'⟩ := hd.failed _ s' (.inr happly')
    -- both are refused, and for the same reason
    obtain ⟨why, hwhy⟩ := Kernel.exists_refusal_of_apply_eq_none happly
    have hwhy' : (kernel s').refusal (m.command cs stage) = some why :=
      (h.refusal_eq hp h' hm stage).symm.trans hwhy
    have he : e' = e :=
      (hexplains _ s' e' t' why hwhy' hrun').trans (hexplains _ s e t why hwhy hrun).symm
    exact ⟨.error e, t, t', f, hrun, he ▸ hrun', ht.symm ▸ h, ht'.symm ▸ h',
      ht.symm ▸ Kernel.Frame.refl cs (kernel s)⟩

theorem Worker.worksOn_step {w : Worker} (hw : WorksOn cs w.batches) :
    WorksOn cs (w.step runner s).1.batches := by
  obtain ⟨batches, p, r, rs⟩ := w
  match batches with
  | [] => exact hw
  | [] :: more => exact fun batch hbatch => hw batch (List.mem_cons_of_mem _ hbatch)
  | (c :: rest) :: more =>
    have hrest : WorksOn cs (rest :: more) := by
      intro batch hbatch d hd
      rcases List.mem_cons.1 hbatch with rfl | hmem
      · exact hw _ List.mem_cons_self d (List.mem_cons_of_mem _ hd)
      · exact hw batch (List.mem_cons_of_mem _ hmem) d hd
    by_cases hskip : p.skips c.stage = true
    · simp only [step, hskip, if_true]
      exact hrest
    · simp only [step, if_neg hskip]
      rcases (runner.run c).result s with ⟨⟨⟩ | e, s'⟩ <;> exact hrest

/-- A worker's next step is the same in two states with the same part of its guest. -/
theorem Worker.step_of_parts (hd : runner.Drives kernel Runner.never)
    (hexplains : runner.Explains kernel complaint) (hp : cs.Proper) {w : Worker}
    (hw : WorksOn cs w.batches) (h : PartOf cs f (kernel s)) (h' : PartOf cs f (kernel s')) :
    (w.step runner s).1 = (w.step runner s').1 ∧
      (∃ f', PartOf cs f' (kernel (w.step runner s).2) ∧
        PartOf cs f' (kernel (w.step runner s').2)) ∧
      (kernel s).Frame cs (kernel (w.step runner s).2) := by
  obtain ⟨batches, p, r, rs⟩ := w
  match batches with
  | [] => exact ⟨rfl, ⟨f, h, h'⟩, .refl cs _⟩
  | [] :: more => exact ⟨rfl, ⟨f, h, h'⟩, .refl cs _⟩
  | (c :: rest) :: more =>
    by_cases hskip : p.skips c.stage = true
    · simp only [step, hskip, if_true, true_and]
      exact ⟨⟨f, h, h'⟩, .refl cs _⟩
    · obtain ⟨m, hm, stage, rfl⟩ := hw _ List.mem_cons_self c List.mem_cons_self
      obtain ⟨res, t, t', f', hrun, hrun', hpart, hpart', hframe⟩ :=
        result_of_parts hd hexplains hp hm stage h h'
      simp only [step, if_neg hskip, hrun, hrun', true_and]
      exact ⟨⟨f', hpart, hpart'⟩, hframe⟩

/-! ### A pair beside a worker on its own -/

/-- The own worker of a pair is where a worker is that runs alone, the guest's part is the
    same for both, and what is nobody's is what it was. -/
structure Alike (kernel : σ → Kernel) (cs cs' : Chains) (base : Kernel) (y : Worker × σ)
    (x : Pair σ) : Prop where
  mine : x.mine = y.1
  worksOn : WorksOn cs x.mine.batches
  worksOn' : WorksOn cs' x.theirs.batches
  part : ∃ f, PartOf cs f (kernel x.state) ∧ PartOf cs f (kernel y.2)
  part' : ∃ f, PartOf cs' f (kernel x.state)
  beside : ∀ t n, (∀ r : Role, (t, n) ≠ (r.table, (cs.get r).name)) →
    (∀ r : Role, (t, n) ≠ (r.table, (cs'.get r).name)) →
    (kernel x.state).rulesBeside cs cs' t n = base.rulesBeside cs cs' t n

variable {base : Kernel} {y : Worker × σ} {x : Pair σ}

/-- The worker that runs alone waits while the other one of the pair has a turn. -/
def Turn.alone (runner : Runner σ) (y : Worker × σ) : Turn → Worker × σ
  | .mine => y.1.step runner y.2
  | .theirs => y

theorem Alike.step (hd : runner.Drives kernel Runner.never)
    (hexplains : runner.Explains kernel complaint) (hp : cs.Proper) (hp' : cs'.Proper)
    (hapart : ∀ r r' : Role, (cs.get r).name ≠ (cs'.get r').name)
    (h : Alike kernel cs cs' base y x) (turn : Turn) :
    Alike kernel cs cs' base (turn.alone runner y) (x.step runner turn) := by
  obtain ⟨w, alone⟩ := y
  have hmine : x.mine = w := h.mine
  subst hmine
  obtain ⟨f, hpart, halone⟩ := h.part
  obtain ⟨f', hpart'⟩ := h.part'
  cases turn with
  | mine =>
    obtain ⟨hsame, hparts, hframe⟩ :=
      Worker.step_of_parts hd hexplains hp h.worksOn hpart halone
    exact
      { mine := hsame
        worksOn := Worker.worksOn_step h.worksOn
        worksOn' := h.worksOn'
        part := hparts
        part' := ⟨f', hpart'.of_frame hp' (fun r r' he => hapart r' r he.symm) hframe⟩
        beside := fun t n hn hn' =>
          (hframe.rulesBeside_eq cs' hn).trans (h.beside t n hn hn') }
  | theirs =>
    obtain ⟨-, ⟨g, hg, -⟩, hframe⟩ :=
      Worker.step_of_parts hd hexplains hp' h.worksOn' hpart' hpart'
    exact
      { mine := rfl
        worksOn := h.worksOn
        worksOn' := Worker.worksOn_step h.worksOn'
        part := ⟨f, hpart.of_frame hp hapart hframe, halone⟩
        part' := ⟨g, hg⟩
        beside := fun t n hn hn' => by
          rw [← h.beside t n hn hn', Kernel.rulesBeside_comm, (kernel x.state).rulesBeside_comm]
          exact hframe.rulesBeside_eq cs hn' }

theorem Alike.run (hd : runner.Drives kernel Runner.never)
    (hexplains : runner.Explains kernel complaint) (hp : cs.Proper) (hp' : cs'.Proper)
    (hapart : ∀ r r' : Role, (cs.get r).name ≠ (cs'.get r').name)
    (h : Alike kernel cs cs' base y x) (turns : List Turn) :
    Alike kernel cs cs' base (turns.foldl (Turn.alone runner) y) (x.run runner turns) := by
  induction turns generalizing x y with
  | nil => exact h
  | cons turn rest ih => exact ih (h.step hd hexplains hp hp' hapart turn)

/-- Whatever turns it had to wait for, the worker that runs alone is on its way to what its
    batches come to. -/
theorem Worker.finish_alone (runner : Runner σ) (y : Worker × σ) (turns : List Turn) :
    (turns.foldl (Turn.alone runner) y).1.finish runner (turns.foldl (Turn.alone runner) y).2
      = y.1.finish runner y.2 := by
  induction turns generalizing y with
  | nil => rfl
  | cons turn rest ih =>
    refine (ih _).trans ?_
    cases turn with
    | mine => exact finish_step runner y.1 y.2
    | theirs => rfl

end Parts

end Batch

/-! ### Two declarations -/

theorem Footprint.PartOf.jumpsTo_eq {cs : Chains} {f : Footprint} {k k' : Kernel}
    (h : PartOf cs f k) (h' : PartOf cs f k') (t : Table) (n : String) :
    k.jumpsTo cs t n = k'.jumpsTo cs t n := by
  by_cases hgate : ∃ g : Gate, (t, n) = (g.table, g.chain)
  · obtain ⟨g, hg⟩ := hgate
    obtain ⟨rfl, rfl⟩ := Prod.mk.inj hg
    exact (h.gate g).trans (h'.gate g).symm
  · have hn : ∀ g : Gate, (t, n) ≠ (g.table, g.chain) := fun g he => hgate ⟨g, he⟩
    exact (h.rest t n hn).trans (h'.rest t n hn).symm

/-- The batches of a declaration's events can be made, and work on the guest's part. -/
theorem Declaration.Addressed.mapM_compile {d : Declaration} {vmName : String} {cs : Chains}
    {host guest : Address} (h : d.Addressed vmName host guest)
    (hcs : Chains.ofGuest vmName = .ok cs) (actions : List Action) :
    ∃ batches, actions.mapM d.compile = .ok batches ∧ Batch.WorksOn cs batches := by
  induction actions with
  | nil => exact ⟨[], rfl, nofun⟩
  | cons a rest ih =>
    obtain ⟨batches, hrest, hworks⟩ := ih
    refine ⟨_ :: batches, by rw [List.mapM_cons, h.compile_eq hcs a, hrest]; rfl, ?_⟩
    intro batch hbatch c hc
    rcases List.mem_cons.1 hbatch with rfl | hmem
    · obtain ⟨t, ht, rfl⟩ := List.mem_map.1 hc
      exact ⟨t.move, Batch.Plan.isPlain_of_mem_tasks _ a ht, t.stage, rfl⟩
    · exact hworks batch hmem c hc

section Guests

variable {σ : Type} {runner : Runner σ} {kernel : σ → Kernel}
  {complaint : Command → Refusal → RunnerError} {d d' : Declaration} {vmName vmName' : String}
  {cs cs' : Chains} {host guest host' guest' : Address}

/-- **Two guests do not interfere.**  However their batches take turns, command by command,
    when those of the first guest are done their reports, the guest's chains and the jumps to
    them are what they are without the other guest; and the rules of neither are what they
    were all the time. -/
theorem guests_do_not_interfere (hd : runner.Drives kernel Runner.never)
    (hexplains : runner.Explains kernel complaint)
    (hcs : Chains.ofGuest vmName = .ok cs) (hcs' : Chains.ofGuest vmName' = .ok cs')
    (hshared : cs.sharedName cs' = none)
    (haddr : d.Addressed vmName host guest) (haddr' : d'.Addressed vmName' host' guest')
    {s : σ} (hclear : (kernel s).Clear cs) (hclear' : (kernel s).Clear cs')
    (actions actions' : List Action) :
    ∃ batches batches', actions.mapM d.compile = .ok batches ∧
      actions'.mapM d'.compile = .ok batches' ∧
      ∀ turns : List Batch.Turn,
        let x := Batch.Pair.run runner ⟨{ batches }, { batches := batches' }, s⟩ turns
        let alone := Batch.executeAll runner batches s
        (x.mine.batches = [] →
          x.mine.reports = alone.1 ∧
          (∀ r : Role, (kernel x.state).rules r.table (cs.get r).name
            = (kernel alone.2).rules r.table (cs.get r).name) ∧
          ∀ t n, (kernel x.state).jumpsTo cs t n = (kernel alone.2).jumpsTo cs t n) ∧
        ∀ t n, (∀ r : Role, (t, n) ≠ (r.table, (cs.get r).name)) →
          (∀ r : Role, (t, n) ≠ (r.table, (cs'.get r).name)) →
          (kernel x.state).rulesBeside cs cs' t n = (kernel s).rules t n := by
  obtain ⟨batches, hbatches, hworks⟩ := haddr.mapM_compile hcs actions
  obtain ⟨batches', hbatches', hworks'⟩ := haddr'.mapM_compile hcs' actions'
  refine ⟨batches, batches', hbatches, hbatches', fun turns => ?_⟩
  intro x alone
  have hfirst : Batch.Alike kernel cs cs' (kernel s) ({ batches }, s)
      ⟨{ batches }, { batches := batches' }, s⟩ :=
    { mine := rfl
      worksOn := hworks
      worksOn' := hworks'
      part := ⟨.empty, .of_clear hclear, .of_clear hclear⟩
      part' := ⟨.empty, .of_clear hclear'⟩
      beside := fun _ _ _ _ => rfl }
  have hlast := hfirst.run hd hexplains (Chains.proper_of_ofGuest hcs)
    (Chains.proper_of_ofGuest hcs') (Chains.sharedName_eq_none.1 hshared) turns
  have hfinish := Batch.Worker.finish_alone runner ({ batches }, s) turns
  rw [Batch.Worker.finish_start] at hfinish
  constructor
  · intro hdone
    rw [hlast.mine] at hdone
    -- the worker that ran alone has nothing left either
    have halone : ((turns.foldl (Batch.Turn.alone runner) ({ batches }, s)).1.reports,
        (turns.foldl (Batch.Turn.alone runner) ({ batches }, s)).2) = alone := by
      refine Eq.trans ?_ hfinish
      unfold Batch.Worker.finish
      rw [hdone]
    obtain ⟨f, hpart, hpart'⟩ := hlast.part
    rw [← halone]
    exact ⟨congrArg Batch.Worker.reports hlast.mine,
      fun r => (hpart.own r).trans (hpart'.own r).symm, hpart.jumpsTo_eq hpart'⟩
  · intro t n hn hn'
    exact (hlast.beside t n hn hn').trans (hclear.rulesBeside_eq hclear' t n)

end Guests

theorem Kernel.explains_steadyRunner :
    Kernel.steadyRunner.Explains Prod.fst fun _ _ => .nonZeroExit (some 1) "" := by
  intro c s e s' why _ hrun
  simp only [steadyRunner, runner, Effect.ofFunction, Effect.result] at hrun
  cases happly : s.1.apply c with
  | none =>
    simp only [happly, Prod.mk.injEq, Except.error.injEq] at hrun
    exact hrun.1.symm
  | some k =>
    simp only [happly] at hrun
    cases hrun

/-- A second guest beside `Declaration.spark`. -/
def Declaration.flint : Declaration :=
  { Declaration.spark ⟨192, 168, 1, 194⟩ with
    vmName := "flint", privateIp := some ⟨192, 168, 122, 102⟩ }

theorem guests_do_not_interfere_spark :
    ∃ batches batches',
      [Action.start, .reconnect].mapM (Declaration.spark ⟨192, 168, 1, 194⟩).compile = .ok batches ∧
      [Action.start, .reconnect].mapM Declaration.flint.compile = .ok batches' ∧
      let x := Batch.Pair.run Kernel.steadyRunner
        ⟨{ batches }, { batches := batches' }, (Kernel.bare, 0)⟩
        (List.replicate 34 [Batch.Turn.mine, .theirs]).flatten
      x.mine.batches = [] ∧
        x.mine.reports = (Batch.executeAll Kernel.steadyRunner batches (Kernel.bare, 0)).1 := by
  have hspark : (Declaration.spark ⟨192, 168, 1, 194⟩).Addressed "spark" ⟨192, 168, 1, 194⟩
      ⟨192, 168, 122, 101⟩ := ⟨rfl, rfl, rfl⟩
  have hflint : Declaration.flint.Addressed "flint" ⟨192, 168, 1, 194⟩ ⟨192, 168, 122, 102⟩ :=
    ⟨rfl, rfl, rfl⟩
  have hchains : Chains.ofGuest "flint" = .ok (Chains.named "flint") := by decide +kernel
  have hclear : Kernel.bare.Clear (Chains.named "flint") :=
    ⟨fun r => by cases r <;> decide +kernel, fun r => by cases r <;> decide +kernel⟩
  obtain ⟨batches, batches', hbatches, hbatches', hsame⟩ :=
    guests_do_not_interfere Kernel.drives_steadyRunner Kernel.explains_steadyRunner
      Chains.ofGuest_spark hchains (by decide +kernel) hspark hflint (s := (Kernel.bare, 0))
      Kernel.clear_spark hclear [.start, .reconnect] [.start, .reconnect]
  have hlast := (hsame (List.replicate 34 [.mine, .theirs]).flatten).1
  have hdone : (Batch.Pair.run Kernel.steadyRunner
      ⟨{ batches }, { batches := batches' }, (Kernel.bare, 0)⟩
      (List.replicate 34 [Batch.Turn.mine, .theirs]).flatten).mine.batches = [] := by
    have hmine : batches = ([Action.start, .reconnect].mapM
        (Declaration.spark ⟨192, 168, 1, 194⟩).compile).toOption.getD [] := by
      rw [hbatches]
      rfl
    have htheirs : batches'
        = ([Action.start, .reconnect].mapM Declaration.flint.compile).toOption.getD [] := by
      rw [hbatches']
      rfl
    rw [hmine, htheirs]
    decide +kernel
  exact ⟨batches, batches', hbatches, hbatches', hdone, (hlast hdone).1⟩

end GuestPorts
