/-
  GuestPorts/Proofs/Batch/Blocks.lean
  ===================================
  **A failure while the chains are filled stays in its block**
  (`populate_failures_stay_in_block`).

  A run remembers one block only, the one of the last populate command that failed
  (`Batch.failedBlock_foldl_step`).  That is enough as long as the batch keeps its blocks
  together: a block that failed and was forgotten since is over, because the command that
  failed after it was of another block.
-/
import GuestPorts.Proofs.Batch.Policy

namespace GuestPorts

/-- The block that a failure leaves undone. -/
def Entry.failedBlock? (e : Entry) : Option Nat :=
  match e.fate, e.command.stage with
  | .failed _, .populate block => some block
  | _, _ => none

theorem Entry.failedBlock?_eq_some_iff {e : Entry} {block : Nat} :
    e.failedBlock? = some block ↔
      e.command.stage = .populate block ∧ ∃ error, e.fate = .failed error := by
  unfold failedBlock?
  cases hfate : e.fate <;> cases hstage : e.command.stage <;> simp

namespace Batch

/-- A command stands somewhere between two populate commands of one block. -/
def Encloses (batch : Batch) (block : Nat) (m : Command) : Prop :=
  ∃ front mid back c d, batch = front ++ c :: (mid ++ d :: back) ∧
    c.stage = .populate block ∧ d.stage = .populate block ∧ m ∈ mid

/-- Between two populate commands of one block there is none of another. -/
def BlocksTogether (batch : Batch) : Prop :=
  ∀ block m other, batch.Encloses block m → m.stage = .populate other → other = block

/-- Between two populate commands of one block there are only others of it. -/
def BlocksUnbroken (batch : Batch) : Prop :=
  ∀ block m, batch.Encloses block m → m.stage = .populate block

theorem BlocksUnbroken.together {batch : Batch} (h : batch.BlocksUnbroken) :
    batch.BlocksTogether := by
  intro block m other hm hother
  have hsame := h block m hm
  rw [hother] at hsame
  cases hsame
  rfl

/-! ### The block that is remembered -/

section Remembered

variable {σ : Type} {run : Command → Effect σ RunnerError Unit}

theorem failedBlock_step (x : Progress × σ) (c : Command) :
    (step run x c).1.failedBlock
      = (Entry.failedBlock? ⟨c, fateOf run x c⟩).or x.1.failedBlock := by
  simp only [step, fateOf, Entry.failedBlock?]
  split
  · simp
  · split
    · next hrun => simp [hrun]
    · next hrun =>
      simp only [hrun]
      cases c.stage <;> simp [Progress.afterFailure]

/-- **What is remembered is the block that failed last.** -/
theorem failedBlock_foldl_step (x : Progress × σ) (batch : Batch) :
    (batch.foldl (step run) x).1.failedBlock
      = ((entriesFrom run x batch).filterMap Entry.failedBlock?).getLast?.or x.1.failedBlock := by
  induction batch generalizing x with
  | nil => simp [entriesFrom]
  | cons c rest ih =>
    rw [List.foldl_cons, ih, failedBlock_step, entriesFrom, List.filterMap_cons]
    cases Entry.failedBlock? ⟨c, fateOf run x c⟩ with
    | none => simp
    | some block =>
      cases hlater : ((entriesFrom run (step run x c) rest).filterMap
        Entry.failedBlock?).getLast? <;> simp [List.getLast?_cons, hlater]

end Remembered

/-- Where blocks are kept together, the block of the next populate command has failed before
    exactly if it is the one that failed last. -/
theorem BlocksTogether.getLast?_failedBlocks {es : List Entry} {d : Command} {back : Batch}
    {block : Nat} (h : BlocksTogether (es.map Entry.command ++ d :: back))
    (hd : d.stage = .populate block) :
    (es.filterMap Entry.failedBlock?).getLast? = some block ↔
      ∃ e ∈ es, e.failedBlock? = some block := by
  constructor
  · intro hlast
    exact List.mem_filterMap.1 (List.mem_of_getLast? hlast)
  · rintro ⟨e, he, hfailed⟩
    obtain ⟨before, after, rfl⟩ := List.append_of_mem he
    rw [List.filterMap_append, List.filterMap_cons_some hfailed, List.getLast?_append_cons]
    cases hlater : (after.filterMap Entry.failedBlock?).getLast? with
    | none =>
      rw [List.getLast?_eq_none_iff.1 hlater]
      rfl
    | some other =>
      -- a later failure of another block would stand inside this one
      obtain ⟨e', he', hother⟩ := List.mem_filterMap.1 (List.mem_of_getLast? hlater)
      have hinside : Encloses ((before ++ e :: after).map Entry.command ++ d :: back) block
          e'.command := by
        refine ⟨before.map Entry.command, after.map Entry.command, back, e.command, d, ?_, ?_, hd,
          List.mem_map_of_mem he'⟩
        · simp
        · exact (Entry.failedBlock?_eq_some_iff.1 hfailed).1
      have hsame := h block _ other hinside (Entry.failedBlock?_eq_some_iff.1 hother).1
      rw [List.getLast?_cons, hlater, hsame]
      rfl

/-- **A populate command is skipped exactly if a create or link before it failed or one of its
    own block did.** -/
theorem BlocksTogether.skipped_iff {σ : Type} {runner : Runner σ} {batch : Batch} {s : σ}
    (h : batch.BlocksTogether) {n : Nat} {e : Entry} {block : Nat}
    (hn : (batch.entries runner s)[n]? = some e) (hstage : e.command.stage = .populate block) :
    e.fate = .skipped ↔
      ∃ e' ∈ (batch.entries runner s).take n, (∃ error, e'.fate = .failed error) ∧
        (e'.command.stage = .create ∨ e'.command.stage = .link ∨
          e'.command.stage = .populate block) := by
  unfold entries at hn ⊢
  rw [getElem?_entriesFrom] at hn
  obtain ⟨c, hc, rfl⟩ := Option.map_eq_some_iff.1 hn
  have hsplit : batch = batch.take n ++ c :: batch.drop (n + 1) := by
    obtain ⟨hlt, hget⟩ := List.getElem?_eq_some_iff.1 hc
    rw [← hget, ← List.drop_eq_getElem_cons hlt, List.take_append_drop]
  have htogether : BlocksTogether
      ((entriesFrom runner.run ({}, s) (batch.take n)).map Entry.command
        ++ c :: batch.drop (n + 1)) := by
    rw [map_command_entriesFrom, ← hsplit]
    exact h
  have hslot := htogether.getLast?_failedBlocks hstage
  rw [take_entriesFrom, fateOf_eq_skipped_iff]
  simp only at hstage
  simp only [hstage, Progress.skips, Bool.or_eq_true, beq_iff_eq, aborted_foldl_step,
    failedBlock_foldl_step, Bool.false_or, Option.or_none, hslot, List.any_eq_true,
    Bool.and_eq_true, Stage.isCritical_iff, Entry.failedBlock?_eq_some_iff,
    Fate.isSome_error?_iff]
  constructor
  · rintro (⟨e', he', hcritical, hfailed⟩ | ⟨e', he', hblock, hfailed⟩)
    · exact ⟨e', he', hfailed, hcritical.imp_right .inl⟩
    · exact ⟨e', he', hfailed, .inr (.inr hblock)⟩
  · rintro ⟨e', he', hfailed, hcreate | hlink | hblock⟩
    · exact .inl ⟨e', he', .inl hcreate, hfailed⟩
    · exact .inl ⟨e', he', .inr hlink, hfailed⟩
    · exact .inr ⟨e', he', hblock, hfailed⟩

/-! ### Compiled batches -/

/-- The blocks come in the order of their numbers. -/
def BlocksAscend (batch : Batch) : Prop :=
  batch.Pairwise fun c d =>
    ∀ b b', c.stage = .populate b → d.stage = .populate b' → b ≤ b'

theorem BlocksAscend.append {front back : Batch} (hfront : front.BlocksAscend)
    (hback : back.BlocksAscend)
    (h : ∀ c ∈ front, ∀ d ∈ back, c.stage.phase ≠ 2 ∨ d.stage.phase ≠ 2) :
    BlocksAscend (front ++ back) := by
  apply List.pairwise_append.2
  refine ⟨hfront, hback, ?_⟩
  intro c hc d hd b b' hb hb'
  rcases h c hc d hd with hphase | hphase
  · rw [hb] at hphase
    exact absurd rfl hphase
  · rw [hb'] at hphase
    exact absurd rfl hphase

theorem BlocksAscend.of_phase_ne {batch : Batch} (h : ∀ c ∈ batch, c.stage.phase ≠ 2) :
    batch.BlocksAscend := by
  apply List.pairwise_of_forall_mem_list
  intro c hc d _ b b' hb
  apply absurd _ (h c hc)
  rw [hb]
  rfl

/-- In phases, with blocks in their order, a block is not interrupted. -/
theorem BlocksAscend.unbroken {batch : Batch} (h : batch.BlocksAscend) (hphased : batch.Phased) :
    batch.BlocksUnbroken := by
  rintro block m ⟨front, mid, back, c, d, rfl, hc, hd, hm⟩
  have hphases := (List.pairwise_append.1 hphased).2.1
  have hblocks := (List.pairwise_append.1 h).2.1
  rw [List.pairwise_cons] at hphases hblocks
  have hinner := List.pairwise_append.1 hphases.2
  have hinnerBlocks := List.pairwise_append.1 hblocks.2
  have hfrom : c.stage.phase ≤ m.stage.phase := hphases.1 m (List.mem_append_left _ hm)
  have hto : m.stage.phase ≤ d.stage.phase := hinner.2.2 m hm d List.mem_cons_self
  rw [hc] at hfrom
  rw [hd] at hto
  have hphase : m.stage.phase = 2 := Nat.le_antisymm hto hfrom
  obtain ⟨other, hother⟩ := Stage.phase_eq_two.1 hphase
  have hlow := hblocks.1 m (List.mem_append_left _ hm) block other hc hother
  have hhigh := hinnerBlocks.2.2 m hm d List.mem_cons_self other block hother hd
  rw [hother, Nat.le_antisymm hhigh hlow]

namespace Plan

variable (p : Plan)

theorem number_le_of_mem_blocksFrom {number block : Nat} {fs : List Forward} {c : Command}
    (h : c ∈ p.blocksFrom number fs) (hstage : c.stage = .populate block) : number ≤ block := by
  induction fs generalizing number with
  | nil => cases h
  | cons f fs ih =>
    rcases List.mem_append.1 h with hblock | hrest
    · rw [p.stage_of_mem_block hblock] at hstage
      cases hstage
      exact le_rfl
    · exact Nat.le_of_succ_le (ih hrest)

theorem blocksAscend_blocksFrom (number : Nat) (fs : List Forward) :
    BlocksAscend (p.blocksFrom number fs) := by
  induction fs generalizing number with
  | nil => exact List.Pairwise.nil
  | cons f fs ih =>
    apply List.pairwise_append.2
    refine ⟨?_, ih (number + 1), ?_⟩
    · apply List.pairwise_of_forall_mem_list
      intro c hc d hd b b' hb hb'
      rw [p.stage_of_mem_block hc] at hb
      rw [p.stage_of_mem_block hd] at hb'
      cases hb
      cases hb'
      exact le_rfl
    · intro c hc d hd b b' hb hb'
      rw [p.stage_of_mem_block hc] at hb
      cases hb
      exact Nat.le_of_succ_le (p.number_le_of_mem_blocksFrom hd hb')

theorem blocksAscend_start : BlocksAscend p.start := by
  have hcreated : BlocksAscend (create p.chains) :=
    .of_phase_ne fun c hc => by rw [phase_of_mem_create hc]; decide
  have hlinked : BlocksAscend (link p.chains p.host p.guest .insert) :=
    .of_phase_ne fun c hc => by rw [phase_of_mem_link hc]; decide
  have hmade := hcreated.append (p.blocksAscend_blocksFrom 0 p.forwards) fun c hc _ _ =>
    .inl (by rw [phase_of_mem_create hc]; decide)
  exact hmade.append hlinked fun _ _ d hd => .inr (by rw [phase_of_mem_link hd]; decide)

/-- **The blocks of a compiled batch are unbroken.** -/
theorem blocksUnbroken_batch (a : Action) : BlocksUnbroken (p.batch a) := by
  apply BlocksAscend.unbroken _ (p.phased_batch a)
  have hstop : ∀ c ∈ p.stop, c.stage.phase ≠ 2 := by
    intro c hc
    rw [p.phase_of_mem_stop hc]
    decide
  cases a with
  | start => exact p.blocksAscend_start
  | stopped => exact .of_phase_ne hstop
  | reconnect =>
    exact (BlocksAscend.of_phase_ne hstop).append p.blocksAscend_start
      fun c hc _ _ => .inl (hstop c hc)
  | _ => exact List.Pairwise.nil

end Plan

end Batch

theorem Declaration.blocksUnbroken_of_compile {d : Declaration} {a : Action} {batch : Batch}
    (h : d.compile a = .ok batch) : batch.BlocksUnbroken := by
  cases a with
  | start | stopped | reconnect =>
    obtain ⟨p, -, rfl⟩ := Declaration.of_compile_eq_ok rfl h
    exact p.blocksUnbroken_batch _
  | _ =>
    cases h
    exact Batch.BlocksAscend.unbroken List.Pairwise.nil List.Pairwise.nil

/-- **A failure while the chains are filled stays in its block**: in a batch that keeps its
    blocks together, as every compiled one does, a populate command is skipped exactly if a
    create or link before it failed or an earlier command of its own block did. -/
theorem populate_failures_stay_in_block {σ : Type} (runner : Runner σ) (batch : Batch) (s : σ) :
    (batch.BlocksTogether →
      (batch.entries runner s).map Entry.command = batch ∧
      (batch.execute runner s).1 = Report.ofEntries (batch.entries runner s) ∧
      ∀ n e block, (batch.entries runner s)[n]? = some e → e.command.stage = .populate block →
        (e.fate = .skipped ↔
          ∃ e' ∈ (batch.entries runner s).take n, (∃ error, e'.fate = .failed error) ∧
            (e'.command.stage = .create ∨ e'.command.stage = .link ∨
              e'.command.stage = .populate block))) ∧
    ∀ d a, Declaration.compile d a = .ok batch → batch.BlocksUnbroken ∧ batch.BlocksTogether := by
  constructor
  · intro htogether
    refine ⟨Batch.map_command_entries runner batch s, Batch.execute_eq_ofEntries runner batch s, ?_⟩
    intro n e block hn hstage
    exact htogether.skipped_iff hn hstage
  · intro d a h
    have hunbroken := Declaration.blocksUnbroken_of_compile h
    exact ⟨hunbroken, hunbroken.together⟩

/-- A runner that refuses some commands and does nothing else. -/
def Runner.refusing (refuses : Command → Bool) : Runner Unit where
  program := Command.defaultProgram
  run := fun c => Effect.ofExcept (if refuses c then .error (.nonZeroExit (some 1) "") else .ok ())

/-- A start in which no rule can be added: the first rule of the block fails and the second
    one is skipped. -/
theorem populate_failures_stay_in_block_spark :
    ∃ batch, (Declaration.spark ⟨192, 168, 1, 194⟩).compile .start = .ok batch ∧
      batch.BlocksTogether ∧
      let es := batch.entries (Runner.refusing fun c => c.op = .append) ()
      ∃ e, es[4]? = some e ∧ e.command.stage = .populate 0 ∧ e.fate = .skipped ∧
        (e.fate = .skipped ↔
          ∃ e' ∈ es.take 4, (∃ error, e'.fate = .failed error) ∧
            (e'.command.stage = .create ∨ e'.command.stage = .link ∨
              e'.command.stage = .populate 0)) := by
  have haddr : (Declaration.spark ⟨192, 168, 1, 194⟩).Addressed "spark" ⟨192, 168, 1, 194⟩
      ⟨192, 168, 122, 101⟩ := ⟨rfl, rfl, rfl⟩
  have hcompile := Declaration.compile_of_plan (haddr.plan_eq Chains.ofGuest_spark) .start
  refine ⟨_, hcompile, ?_⟩
  obtain ⟨hskipped, hcompiled⟩ :=
    populate_failures_stay_in_block (Runner.refusing fun c => c.op = .append) _ ()
  have htogether := (hcompiled _ _ hcompile).2
  exact ⟨htogether, _, rfl, rfl, rfl, (hskipped htogether).2.2 4 _ 0 rfl rfl⟩

end GuestPorts
