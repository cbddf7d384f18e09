/-
  GuestPorts/Proofs/Batch/Policy.lean
  ===================================
  **What a failure leaves undone** in the batches that are compiled (`failure_policy`).

  A compiled batch goes through four phases: it takes down, creates, fills and links.  Only
  creates and links hold anything up, so in a batch that keeps to this order the teardown is
  always attempted in full, and everything behind the creates waits for all of them.  That the
  order is kept is a fact about the compiler (`Batch.Plan.phased_batch`), what follows from it
  is one about running (`Batch.Phased.attempted_link_iff` and its neighbours).
-/
import GuestPorts.Proofs.Batch.Event
import GuestPorts.Proofs.Batch.Fate

namespace GuestPorts

/-! ### Phases -/

namespace Stage

def phase : Stage → Nat
  | .unlink | .destroy => 0
  | .create => 1
  | .populate _ => 2
  | .link => 3

theorem phase_eq_zero {stage : Stage} : stage.phase = 0 ↔ stage = .unlink ∨ stage = .destroy := by
  cases stage <;> simp [phase]

theorem phase_eq_one {stage : Stage} : stage.phase = 1 ↔ stage = .create := by
  cases stage <;> simp [phase]

theorem phase_eq_two {stage : Stage} :
    stage.phase = 2 ↔ ∃ block, stage = .populate block := by
  cases stage <;> simp [phase]

theorem phase_eq_three {stage : Stage} : stage.phase = 3 ↔ stage = .link := by
  cases stage <;> simp [phase]

theorem one_lt_phase {stage : Stage} :
    1 < stage.phase ↔ (∃ block, stage = .populate block) ∨ stage = .link := by
  cases stage <;> simp [phase]

end Stage

namespace Batch

/-- No command stands behind one of a later phase. -/
def Phased (batch : Batch) : Prop := batch.Pairwise fun c d => c.stage.phase ≤ d.stage.phase

namespace Phased

variable {σ : Type} {runner : Runner σ} {batch : Batch} {s : σ} {n : Nat} {e e' : Entry}

theorem append {front back : Batch} (hfront : Phased front) (hback : Phased back)
    (h : ∀ c ∈ front, ∀ d ∈ back, c.stage.phase ≤ d.stage.phase) : Phased (front ++ back) :=
  List.pairwise_append.2 ⟨hfront, hback, h⟩

/-- One phase alone is in order. -/
theorem of_phase {k : Nat} (h : ∀ c ∈ batch, c.stage.phase = k) : Phased batch :=
  List.pairwise_of_forall_mem_list fun c hc d hd => by rw [h c hc, h d hd]

theorem pairwise_entries (h : Phased batch) :
    (batch.entries runner s).Pairwise fun e e' =>
      e.command.stage.phase ≤ e'.command.stage.phase := by
  unfold Phased at h
  rwa [← map_command_entries runner batch s, List.pairwise_map] at h

theorem phase_le_of_mem_take (h : Phased batch) (hn : (batch.entries runner s)[n]? = some e)
    (he' : e' ∈ (batch.entries runner s).take n) :
    e'.command.stage.phase ≤ e.command.stage.phase := by
  obtain ⟨m, hm, rfl⟩ := List.mem_take_iff_getElem.1 he'
  obtain ⟨hlt, rfl⟩ := List.getElem?_eq_some_iff.1 hn
  exact List.pairwise_iff_getElem.1 h.pairwise_entries m n _ hlt (by omega)

/-- What is of an earlier phase than a command stands before it. -/
theorem mem_take (h : Phased batch) (hn : (batch.entries runner s)[n]? = some e)
    (he' : e' ∈ batch.entries runner s)
    (hphase : e'.command.stage.phase < e.command.stage.phase) :
    e' ∈ (batch.entries runner s).take n := by
  obtain ⟨m, hm, rfl⟩ := List.mem_iff_getElem.1 he'
  obtain ⟨hlt, rfl⟩ := List.getElem?_eq_some_iff.1 hn
  refine List.mem_take_iff_getElem.2 ⟨m, lt_min ?_ hm, rfl⟩
  by_contra hge
  rcases Nat.lt_or_eq_of_le (Nat.le_of_not_lt hge) with hnm | rfl
  · have hle := List.pairwise_iff_getElem.1 h.pairwise_entries n m hlt hm hnm
    omega
  · exact absurd hphase (lt_irrefl _)

/-- **The teardown is attempted in full**, because no create or link stands before it. -/
theorem attempted_teardown (h : Phased batch) (he : e ∈ batch.entries runner s)
    (hstage : e.command.stage = .unlink ∨ e.command.stage = .destroy) : e.fate ≠ .skipped := by
  have hzero : e.command.stage.phase = 0 := Stage.phase_eq_zero.2 hstage
  obtain ⟨n, hn⟩ := List.mem_iff_getElem?.1 he
  refine (attempted_iff hn fun block hb => ?_).2 fun e' he' hcritical => ?_
  · rw [hb] at hzero
    cases hzero
  · have hle := h.phase_le_of_mem_take hn he'
    rw [hzero, Nat.le_zero] at hle
    rcases Stage.isCritical_iff.1 hcritical with hc | hl
    · rw [hc] at hle
      cases hle
    · rw [hl] at hle
      cases hle

/-- **Nothing is filled or linked unless every chain was created.** -/
theorem created_of_attempted (h : Phased batch) (he : e ∈ batch.entries runner s)
    (hstage : (∃ block, e.command.stage = .populate block) ∨ e.command.stage = .link)
    (hattempted : e.fate ≠ .skipped) :
    ∀ e' ∈ batch.entries runner s, e'.command.stage = .create → e'.fate = .applied := by
  intro e' he' hcreate
  have hlate : 1 < e.command.stage.phase := Stage.one_lt_phase.2 hstage
  obtain ⟨n, hn⟩ := List.mem_iff_getElem?.1 he
  refine applied_of_attempted hn hattempted e' (h.mem_take hn he' ?_)
    (Stage.isCritical_iff.2 (.inl hcreate))
  rwa [Stage.phase_eq_one.2 hcreate]

/-- **A link is attempted exactly when all creates and the links before it were applied.** -/
theorem attempted_link_iff (h : Phased batch) (hn : (batch.entries runner s)[n]? = some e)
    (hlink : e.command.stage = .link) :
    e.fate ≠ .skipped ↔
      (∀ e' ∈ batch.entries runner s, e'.command.stage = .create → e'.fate = .applied) ∧
        ∀ e' ∈ (batch.entries runner s).take n, e'.command.stage = .link →
          e'.fate = .applied := by
  have hmem : e ∈ batch.entries runner s := List.mem_of_getElem? hn
  constructor
  · intro hattempted
    refine ⟨h.created_of_attempted hmem (.inr hlink) hattempted, fun e' he' hl => ?_⟩
    exact applied_of_attempted hn hattempted e' he' (Stage.isCritical_iff.2 (.inr hl))
  · rintro ⟨hcreates, hlinks⟩
    refine (attempted_iff hn fun block hb => ?_).2 fun e' he' hcritical => ?_
    · rw [hlink] at hb
      cases hb
    · rcases Stage.isCritical_iff.1 hcritical with hc | hl
      · exact hcreates e' (List.mem_of_mem_take he') hc
      · exact hlinks e' he' hl

end Phased

/-! ### Compiled batches -/

theorem phase_of_mem_create {cs : Chains} {c : Command} (h : c ∈ create cs) :
    c.stage.phase = 1 := by
  obtain ⟨chain, -, rfl⟩ := List.mem_map.1 h
  rfl

theorem stage_of_mem_link {cs : Chains} {host guest : Address} {op : ChainOp} {c : Command}
    (h : c ∈ link cs host guest op) : c.stage = jumpStage op := by
  obtain ⟨j, -, rfl⟩ := List.mem_map.1 h
  rfl

theorem phase_of_mem_link {cs : Chains} {host guest : Address} {c : Command}
    (h : c ∈ link cs host guest .insert) : c.stage.phase = 3 := by
  rw [stage_of_mem_link h]
  rfl

theorem countP_phase {batch : Batch} {k : Nat} (h : ∀ c ∈ batch, c.stage.phase = k) (j : Nat) :
    batch.countP (fun c => c.stage.phase = j) = if k = j then batch.length else 0 := by
  split
  · next hk => exact List.countP_eq_length.2 fun c hc => by simp [h c hc, hk]
  · next hk => exact List.countP_eq_zero.2 fun c hc => by simp [h c hc, hk]

namespace Plan

variable (p : Plan)

theorem phase_of_mem_stop {c : Command} (h : c ∈ p.stop) : c.stage.phase = 0 := by
  rcases List.mem_append.1 h with hunlink | hdestroy
  · rw [stage_of_mem_link hunlink]
    rfl
  · obtain ⟨chain, -, hc⟩ := List.mem_flatMap.1 hdestroy
    rcases List.mem_pair.1 hc with rfl | rfl <;> rfl

theorem stage_of_mem_block {f : Forward} {number : Nat} {c : Command}
    (h : c ∈ p.block f number) : c.stage = .populate number := by
  simp only [block, List.mem_cons, List.not_mem_nil, or_false] at h
  rcases h with rfl | rfl | rfl | rfl <;> rfl

theorem stage_of_mem_blocksFrom {number : Nat} {fs : List Forward} {c : Command}
    (h : c ∈ p.blocksFrom number fs) : ∃ block, c.stage = .populate block := by
  induction fs generalizing number with
  | nil => cases h
  | cons f fs ih =>
    rcases List.mem_append.1 h with hblock | hrest
    · exact ⟨number, p.stage_of_mem_block hblock⟩
    · exact ih hrest

theorem phase_of_mem_populate {c : Command} (h : c ∈ p.populate) : c.stage.phase = 2 := by
  obtain ⟨block, hb⟩ := p.stage_of_mem_blocksFrom h
  rw [hb]
  rfl

theorem phased_stop : Phased p.stop := .of_phase fun _ => p.phase_of_mem_stop

theorem phased_start : Phased p.start := by
  have hcreated : Phased (create p.chains) := .of_phase fun _ => phase_of_mem_create
  have hfilled : Phased p.populate := .of_phase fun _ => p.phase_of_mem_populate
  have hlinked : Phased (link p.chains p.host p.guest .insert) :=
    .of_phase fun _ => phase_of_mem_link
  refine (hcreated.append hfilled ?_).append hlinked ?_
  · intro c hc d hd
    rw [phase_of_mem_create hc, p.phase_of_mem_populate hd]
    decide
  · intro c hc d hd
    rw [phase_of_mem_link hd]
    rcases List.mem_append.1 hc with hc | hc
    · rw [phase_of_mem_create hc]
      decide
    · rw [p.phase_of_mem_populate hc]
      decide

/-- **Every compiled batch goes through its phases in order.** -/
theorem phased_batch (a : Action) : Phased (p.batch a) := by
  cases a with
  | start => exact p.phased_start
  | stopped => exact p.phased_stop
  | reconnect =>
    refine p.phased_stop.append p.phased_start fun c hc d _ => ?_
    rw [p.phase_of_mem_stop hc]
    exact Nat.zero_le _
  | _ => exact List.Pairwise.nil

/-- A stop takes down in ten commands. -/
theorem countP_phase_stop (j : Nat) :
    p.stop.countP (fun c => c.stage.phase = j) = if 0 = j then 10 else 0 :=
  countP_phase (fun _ => p.phase_of_mem_stop) j

/-- A start creates in three commands and links in four. -/
theorem countP_phase_start (j : Nat) :
    p.start.countP (fun c => c.stage.phase = j)
      = (if 1 = j then 3 else 0) + (if 2 = j then p.populate.length else 0)
        + (if 3 = j then 4 else 0) := by
  unfold start
  rw [List.countP_append, List.countP_append, countP_phase fun _ => phase_of_mem_create,
    countP_phase fun _ => p.phase_of_mem_populate, countP_phase fun _ => phase_of_mem_link]
  rfl

theorem countP_phase_batch {a : Action} (ha : a.drivesRules = true) (j : Nat) :
    (p.batch a).countP (fun c => c.stage.phase = j)
      = (if a = .start then 0 else p.stop.countP fun c => c.stage.phase = j)
        + (if a = .stopped then 0 else p.start.countP fun c => c.stage.phase = j) := by
  cases a with
  | start => simp [batch]
  | stopped => simp [batch]
  | reconnect => simp [batch, reconnect]
  | _ => cases ha

/-- Whatever does not take down is of a start. -/
theorem mem_start_of_phase_pos {p : Plan} {a : Action} {c : Command} (h : c ∈ p.batch a)
    (hphase : 0 < c.stage.phase) : c ∈ p.start ∧ ∀ d ∈ p.start, d ∈ p.batch a := by
  have hstop : c ∉ p.stop := fun hc => absurd (p.phase_of_mem_stop hc) (by omega)
  cases a with
  | start => exact ⟨h, fun _ hd => hd⟩
  | stopped => exact absurd h hstop
  | reconnect =>
    exact ⟨(List.mem_append.1 h).resolve_left hstop, fun _ hd => List.mem_append_right _ hd⟩
  | _ => cases h

theorem mem_link_of_mem_start {p : Plan} {c : Command} (h : c ∈ p.start)
    (hlink : c.stage = .link) : c ∈ link p.chains p.host p.guest .insert := by
  have hphase : c.stage.phase = 3 := by rw [hlink]; rfl
  rcases List.mem_append.1 h with hmade | hl
  · rcases List.mem_append.1 hmade with hc | hf
    · rw [phase_of_mem_create hc] at hphase
      cases hphase
    · rw [p.phase_of_mem_populate hf] at hphase
      cases hphase
  · exact hl

/-- A link jumps to a chain that its own batch creates. -/
theorem exists_create_of_mem_link {p : Plan} (hp : p.chains.Proper) {a : Action} {c : Command}
    (h : c ∈ p.batch a) (hlink : c.stage = .link) :
    ∃ d ∈ p.batch a, d.stage = .create ∧ d.op = .newChain ∧ d.table = c.table ∧
      c.rule.target = some d.chain := by
  obtain ⟨hstart, hsub⟩ := mem_start_of_phase_pos h (by rw [hlink]; decide)
  have hjump := mem_link_of_mem_start hstart hlink
  rw [link_insert_eq_map hp] at hjump
  obtain ⟨t, ht, rfl⟩ := List.mem_map.1 hjump
  obtain ⟨g, -, rfl⟩ := List.mem_map.1 ht
  refine ⟨(Task.mk (.create g.role) .create).command p.chains, hsub _ ?_, rfl, rfl, rfl,
    g.target_rule p.chains _⟩
  refine List.mem_append_left _ (List.mem_append_left _ ?_)
  rw [create_eq_map hp]
  exact List.mem_map_of_mem (List.mem_map_of_mem g.role.mem_all)

end Plan

/-! ### The policy -/

/-- What is attempted of an action's batch, whichever of its commands fail. -/
structure FollowsPolicy (a : Action) (es : List Entry) : Prop where
  count_teardown : a ≠ .start →
    es.countP (fun e => e.command.stage = .unlink ∨ e.command.stage = .destroy) = 10
  count_create : a ≠ .stopped → es.countP (fun e => e.command.stage = .create) = 3
  count_link : a ≠ .stopped → es.countP (fun e => e.command.stage = .link) = 4
  teardown : ∀ e ∈ es, e.command.stage = .unlink ∨ e.command.stage = .destroy →
    e.fate ≠ .skipped
  /-- Nothing is filled or linked unless every chain was created. -/
  created : ∀ e ∈ es, (∃ block, e.command.stage = .populate block) ∨ e.command.stage = .link →
    e.fate ≠ .skipped → ∀ e' ∈ es, e'.command.stage = .create → e'.fate = .applied
  link : ∀ n e, es[n]? = some e → e.command.stage = .link →
    (e.fate ≠ .skipped ↔
      (∀ e' ∈ es, e'.command.stage = .create → e'.fate = .applied) ∧
        ∀ e' ∈ es.take n, e'.command.stage = .link → e'.fate = .applied)
  /-- The chain that an attempted link jumps to was created just before. -/
  target : ∀ e ∈ es, e.command.stage = .link → e.fate ≠ .skipped →
    ∃ e' ∈ es, e'.fate = .applied ∧ e'.command.op = .newChain ∧
      e'.command.table = e.command.table ∧ e.command.rule.target = some e'.command.chain

theorem Plan.countP_entries {σ : Type} (p : Plan) (a : Action) (runner : Runner σ) (s : σ)
    (q : Stage → Prop) [DecidablePred q] {k : Nat} (hq : ∀ stage, q stage ↔ stage.phase = k) :
    ((p.batch a).entries runner s).countP (fun e => q e.command.stage)
      = (p.batch a).countP fun c => c.stage.phase = k := by
  conv_rhs => rw [← map_command_entries runner (p.batch a) s, List.countP_map]
  exact congrArg (List.countP · _) (funext fun e => decide_eq_decide.2 (hq e.command.stage))

theorem Plan.followsPolicy {σ : Type} {p : Plan} (hp : p.chains.Proper) {a : Action}
    (ha : a.drivesRules = true) (runner : Runner σ) (s : σ) :
    FollowsPolicy a ((p.batch a).entries runner s) where
  count_teardown := fun hne => by
    rw [p.countP_entries a runner s (fun stage => stage = .unlink ∨ stage = .destroy)
      fun _ => Stage.phase_eq_zero.symm]
    simp [countP_phase_batch p ha, countP_phase_stop, countP_phase_start, hne]
  count_create := fun hne => by
    rw [p.countP_entries a runner s (· = .create) fun _ => Stage.phase_eq_one.symm]
    simp [countP_phase_batch p ha, countP_phase_stop, countP_phase_start, hne]
  count_link := fun hne => by
    rw [p.countP_entries a runner s (· = .link) fun _ => Stage.phase_eq_three.symm]
    simp [countP_phase_batch p ha, countP_phase_stop, countP_phase_start, hne]
  teardown := fun e he => (p.phased_batch a).attempted_teardown he
  created := fun e he => (p.phased_batch a).created_of_attempted he
  link := fun n e hn => (p.phased_batch a).attempted_link_iff hn
  target := fun e he hlink hattempted => by
    have hmem : e.command ∈ p.batch a := command_mem he
    obtain ⟨d, hd, hcreate, hop, htable, htarget⟩ := exists_create_of_mem_link hp hmem hlink
    rw [← map_command_entries runner (p.batch a) s] at hd
    obtain ⟨e', he', rfl⟩ := List.mem_map.1 hd
    exact ⟨e', he', (p.phased_batch a).created_of_attempted he (.inr hlink) hattempted e' he'
      hcreate, hop, htable, htarget⟩

end Batch

/-- **What a failure leaves undone**, in the batch of any action and for any runner.  The
    report and the calls of the runner are those that the entries say. -/
theorem failure_policy {σ : Type} (runner : Runner σ) (s : σ) {d : Declaration} {vmName : String}
    {cs : Chains} {host guest : Address} (hcs : Chains.ofGuest vmName = .ok cs)
    (hd : d.Addressed vmName host guest) {a : Action} (ha : a.drivesRules = true) :
    ∃ batch, d.compile a = .ok batch ∧
      (batch.entries runner s).map Entry.command = batch ∧
      (batch.execute runner s).1 = Report.ofEntries (batch.entries runner s) ∧
      (batch.execute runner.recorded (s, [])).2.2 = Batch.attempts (batch.entries runner s) ∧
      Batch.FollowsPolicy a (batch.entries runner s) := by
  refine ⟨_, Declaration.compile_of_plan (hd.plan_eq hcs) a, ?_, ?_, ?_, ?_⟩
  · exact Batch.map_command_entries runner _ s
  · exact Batch.execute_eq_ofEntries runner _ s
  · rw [Batch.execute_recorded]
  · exact Batch.Plan.followsPolicy (Chains.proper_of_ofGuest hcs) ha runner s

/-- A reconnect of a guest that is not there yet, in which the last create fails as well. -/
theorem failure_policy_spark :
    ∃ batch, (Declaration.spark ⟨192, 168, 1, 194⟩).compile .reconnect = .ok batch ∧
      let runner := Kernel.runner fun n => n = 12
      (batch.entries runner (Kernel.bare, 0)).map Entry.command = batch ∧
        (batch.execute runner (Kernel.bare, 0)).1
          = Report.ofEntries (batch.entries runner (Kernel.bare, 0)) ∧
        (batch.execute runner.recorded ((Kernel.bare, 0), [])).2.2
          = Batch.attempts (batch.entries runner (Kernel.bare, 0)) ∧
        Batch.FollowsPolicy .reconnect (batch.entries runner (Kernel.bare, 0)) := by
  have haddr : (Declaration.spark ⟨192, 168, 1, 194⟩).Addressed "spark" ⟨192, 168, 1, 194⟩
      ⟨192, 168, 122, 101⟩ := ⟨rfl, rfl, rfl⟩
  exact failure_policy _ _ Chains.ofGuest_spark haddr rfl

end GuestPorts
