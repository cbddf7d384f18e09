/-
  GuestPorts/Proofs/Batch/Passage.lean
  ====================================
  **What packets find while a batch runs.**

  A packet can come between any two commands, so what counts is every state on the way and
  not just the last.  In each of them a jump leads to a chain that has all the rules of one
  declaration, the one before the event or the one of the event
  (`jumps_lead_to_whole_chains`).

  The phases of a batch take turns at this: while something jumps to the guest's chains only
  jumps are changed, and while chains are changed nothing jumps to them.  So one of two
  properties is kept all through each phase, that there are no jumps (`Footprint.Idle`) or
  that the chains are those of one plan.
-/
import GuestPorts.Proofs.Batch.Event

namespace GuestPorts

/-- A batch is run on from the state that its first commands leave. -/
theorem Batch.exists_snd_execute_eq {σ : Type} (runner : Runner σ) (batch : Batch) (s : σ)
    (n : Nat) :
    ∃ p, (batch.execute runner s).2
      = (executeFrom runner.run p (batch.drop n) (execute runner (batch.take n) s).2).2 := by
  refine ⟨((batch.take n).foldl (step runner.run) ({}, s)).1, ?_⟩
  rw [snd_execute, snd_execute, snd_executeFrom, ← List.foldl_append, List.take_append_drop]

namespace Footprint

open Batch (Progress)

variable {P I : Footprint → Prop} {x : Progress × Footprint} {tasks : List Task} {f f' : Footprint}

/-! ### Every footprint on the way -/

/-- All footprints that performing these tasks goes through, the first one included. -/
def Throughout (P : Footprint → Prop) (x : Progress × Footprint) (tasks : List Task) : Prop :=
  ∀ n, P ((tasks.take n).foldl perform x).2

theorem Throughout.nil (hx : P x.2) : Throughout P x [] := by
  intro n
  rw [List.take_nil]
  exact hx

theorem Throughout.cons {t : Task} (hx : P x.2) (h : Throughout P (perform x t) tasks) :
    Throughout P x (t :: tasks) := by
  intro n
  cases n with
  | zero => exact hx
  | succ n => exact h n

theorem Throughout.append {front back : List Task} (hfront : Throughout P x front)
    (hback : Throughout P (front.foldl perform x) back) : Throughout P x (front ++ back) := by
  intro n
  rcases Nat.le_total n front.length with hn | hn
  · rw [List.take_append_of_le_length hn]
    exact hfront n
  · rw [List.take_append, List.take_of_length_le hn, List.foldl_append]
    exact hback (n - front.length)

/-- What the moves of some tasks keep, holds all through them. -/
theorem Throughout.of_moves
    (h : ∀ t ∈ tasks, ∀ f f', I f → f.move t.move = some f' → I f') (hx : I x.2)
    (hI : ∀ f, I f → P f) : Throughout P x tasks := by
  intro n
  rw [foldl_perform]
  refine hI _ (foldl_attempt_induction (fun e he => ?_) hx)
  obtain ⟨t, ht, rfl⟩ := List.mem_map.1 he
  exact h t (List.mem_of_mem_take ht)

/-- Nothing happens any more once a batch has ended. -/
theorem Throughout.of_aborted (h : x.1.aborted = true) (hx : P x.2) : Throughout P x tasks := by
  intro n
  rw [foldl_perform, foldl_attempt_of_aborted h]
  exact hx

/-! ### No jumps, or the same chains -/

/-- Nothing jumps to the guest's chains. -/
def Idle (f : Footprint) : Prop := ∀ g, f.jumps g = []

theorem Idle.of_move {m : Move} (hm : ∀ g a, m ≠ .link g a) (h : Idle f)
    (hmove : f.move m = some f') : Idle f' := by
  cases m with
  | create r =>
    simp only [move, Option.ite_none_right_eq_some, Option.some.injEq] at hmove
    obtain ⟨-, rfl⟩ := hmove
    exact h
  | fill r args =>
    obtain ⟨rs, -, rfl⟩ := Option.map_eq_some_iff.1 hmove
    exact h
  | flush r =>
    obtain ⟨rs, -, rfl⟩ := Option.map_eq_some_iff.1 hmove
    exact h
  | discard r =>
    simp only [move, Option.ite_none_right_eq_some, Option.some.injEq] at hmove
    obtain ⟨-, rfl⟩ := hmove
    exact h
  | link g a => exact absurd rfl (hm g a)
  | unlink g a =>
    obtain ⟨ha, -⟩ := Option.ite_none_right_eq_some.1 hmove
    rw [h g] at ha
    cases ha

theorem chains_of_link {g : Gate} {a : Address} (h : f.move (.link g a) = some f') :
    f'.chains = f.chains := by
  obtain ⟨rs, -, rfl⟩ := Option.map_eq_some_iff.1 h
  rfl

theorem chains_of_unlink {g : Gate} {a : Address} (h : f.move (.unlink g a) = some f') :
    f'.chains = f.chains := by
  simp only [move, Option.ite_none_right_eq_some, Option.some.injEq] at h
  obtain ⟨-, rfl⟩ := h
  rfl

/-- What is jumped to has all the rules of one of two plans. -/
def Whole (old new : Batch.Plan) (f : Footprint) : Prop :=
  ∀ r, ¬ f.Unlinked r →
    f.chains r = (started old).chains r ∨ f.chains r = (started new).chains r

variable {old new : Batch.Plan}

theorem Idle.whole (h : Idle f) : Whole old new f :=
  fun _ hlinked => absurd (fun g _ => h g) hlinked

theorem whole_of_old (h : f.chains = (started old).chains) : Whole old new f :=
  fun r _ => .inl (by rw [h])

theorem whole_of_new (h : f.chains = (started new).chains) : Whole old new f :=
  fun r _ => .inr (by rw [h])

/-! ### The batches -/

/-- A stop takes out the jumps while the chains are still those of the old plan, and changes
    the chains when no jump is left. -/
theorem stop_throughout (hf : Idle f ∨ f.chains = (started old).chains)
    (hgone : ∀ g, (f.jumps g).erase (g.address new.host new.guest) = []) :
    Throughout (Whole old new) ({}, f) new.stopTasks := by
  refine .append ?_ ?_
  · rcases hf with hidle | hold
    · refine .of_moves (fun t ht f f' h hmove => h.of_move ?_ hmove) hidle fun _ => Idle.whole
      exact new.ne_link_of_mem_stopTasks (List.mem_append_left _ ht)
    · refine .of_moves (fun t ht f f' h hmove => ?_) hold fun _ => whole_of_old
      obtain ⟨g, -, rfl⟩ := List.mem_map.1 ht
      exact (chains_of_unlink hmove).trans h
  · rw [foldl_unlinks]
    refine .of_moves (fun t ht f f' h hmove => h.of_move ?_ hmove) hgone fun _ => Idle.whole
    exact new.ne_link_of_mem_stopTasks (List.mem_append_right _ ht)

/-- A start fills the chains while there are no jumps, and puts the jumps in when the chains
    are those of the new plan. -/
theorem empty_start_throughout (hp : new.chains.Proper) :
    Throughout (Whole old new) ({}, .empty) new.startTasks := by
  refine .append ?_ ?_
  · refine .of_moves (fun t ht f f' h hmove => h.of_move (fun g a hlink => ?_) hmove)
      (fun _ => rfl) fun _ => Idle.whole
    rcases List.mem_append.1 ht with hcreate | hfill
    · obtain ⟨r, -, rfl⟩ := List.mem_map.1 hcreate
      cases hlink
    · obtain ⟨r, args, n, rfl, -⟩ := new.isFill_of_mem_fills hfill
      cases hlink
  · rw [foldl_made hp]
    refine .of_moves (I := fun f => f.chains = (started new).chains)
      (fun t ht f f' h hmove => ?_) rfl fun _ => whole_of_new
    obtain ⟨g, -, rfl⟩ := List.mem_map.1 ht
    exact (chains_of_link hmove).trans h

/-- A start that finds the first of its chains changes nothing. -/
theorem start_throughout_of_there (hf : P f) (hthere : (f.chains .ingress).isSome) :
    Throughout P ({}, f) new.startTasks := by
  refine .cons hf ?_
  rcases attempt_create ({}, f) .ingress false with ⟨hsame, hended⟩ | ⟨hnone, -⟩
  · refine .of_aborted hended ?_
    show P (attempt ({}, f) (⟨.create .ingress, .create⟩, false)).2
    rw [hsame]
    exact hf
  · rw [hnone] at hthere
    cases hthere

/-- **All through a batch, what is jumped to is whole**: nothing was there before it, or what
    a start of the old plan makes. -/
theorem tasks_throughout (old new : Batch.Plan) (hp : new.chains.Proper)
    (hhost : old.host = new.host) (hguest : old.guest = new.guest)
    (hf : f = .empty ∨ f = started old) (a : Action) :
    Throughout (Whole old new) ({}, f) (new.tasks a) := by
  have hphase : Idle f ∨ f.chains = (started old).chains := by
    rcases hf with rfl | rfl
    · exact .inl fun _ => rfl
    · exact .inr rfl
  have hgone : ∀ g, (f.jumps g).erase (g.address new.host new.guest) = [] := by
    rw [← hhost, ← hguest]
    rcases hf with rfl | rfl
    · exact fun _ => rfl
    · simp [started]
  cases a with
  | start =>
    rcases hf with rfl | rfl
    · exact empty_start_throughout hp
    · exact start_throughout_of_there (whole_of_old rfl) rfl
  | stopped => exact stop_throughout hphase hgone
  | reconnect =>
    refine .append (stop_throughout hphase hgone) ?_
    rw [foldl_stop, stopped_eq_empty hgone]
    exact empty_start_throughout hp
  | _ => exact .nil (hphase.elim Idle.whole whole_of_old)

end Footprint

/-! ### On the kernel -/

section Kernels

open Footprint (Shows Whole)

variable {cs : Chains} {base k : Kernel} {f : Footprint}

/-- In this kernel whatever jumps to a chain of the guest finds it there, with all the rules
    that one of two plans has for it. -/
def Kernel.JumpsLeadToWhole (k : Kernel) (cs : Chains) (old new : Batch.Plan) : Prop :=
  ∀ r : Role, k.IsTarget r.table (cs.get r).name →
    k.rules r.table (cs.get r).name = some (old.populate.rulesFor r.table (cs.get r).name) ∨
      k.rules r.table (cs.get r).name = some (new.populate.rulesFor r.table (cs.get r).name)

theorem Footprint.Whole.jumpsLeadToWhole {old new : Batch.Plan} (hold : old.chains = cs)
    (hnew : new.chains = cs) (hp : cs.Proper) (hclear : base.Clear cs) (hf : Whole old new f)
    (h : Shows cs base f k) : k.JumpsLeadToWhole cs old new := by
  intro r htarget
  rw [h.own r]
  have hchains := hf r ((h.isTarget_iff hp hclear r).1 htarget)
  simp only [Footprint.started, hold, hnew] at hchains
  exact hchains

/-- **No jump ever leads to a missing or half-filled chain**: behind any number of commands of
    any event, the guest's chains having been clear before or made by a start of what was
    declared then. -/
theorem jumps_lead_to_whole_chains {σ : Type} {runner : Runner σ} {kernel : σ → Kernel}
    (hr : runner.Drives kernel Runner.never) {vmName : String} {host guest : Address}
    (hcs : Chains.ofGuest vmName = .ok cs) {old new : Declaration}
    (hold : old.Addressed vmName host guest) (hnew : new.Addressed vmName host guest)
    {s₀ s : σ} (hclear : (kernel s₀).Clear cs)
    (hs : kernel s = kernel s₀ ∨ kernel s = kernel (old.run runner s₀ .start)) (a : Action) :
    ∃ batch, new.compile a = .ok batch ∧ ∀ n,
      let between := (Batch.execute runner (batch.take n) s).2
      (∃ p, (batch.execute runner s).2
        = (Batch.executeFrom runner.run p (batch.drop n) between).2) ∧
      (kernel between).JumpsLeadToWhole cs (old.planFor cs host guest)
        (new.planFor cs host guest) := by
  have hp := Chains.proper_of_ofGuest hcs
  obtain ⟨f, hf, hshows⟩ : ∃ f, (f = .empty ∨ f = Footprint.started (old.planFor cs host guest)) ∧
      Shows cs (kernel s₀) f (kernel s) := by
    rcases hs with hs | hs
    · refine ⟨.empty, .inl rfl, ?_⟩
      rw [hs]
      exact .of_clear hclear
    · refine ⟨_, .inr rfl, ?_⟩
      have hstart := hr.run_shows hcs hclear hold (.of_clear hclear) .start
      rw [Footprint.empty_after_start (p := old.planFor cs host guest) hp] at hstart
      rwa [hs]
  refine ⟨_, hnew.compile_eq hcs a, fun n => ⟨Batch.exists_snd_execute_eq runner _ s n, ?_⟩⟩
  have hwhole := Footprint.tasks_throughout (old.planFor cs host guest) (new.planFor cs host guest)
    hp rfl rfl hf a
  rw [← List.map_take]
  refine (hwhole n).jumpsLeadToWhole rfl rfl hp hclear ?_
  refine hr.execute_shows_perform hp hclear (fun t ht => ?_) hshows
  exact Batch.Plan.isPlain_of_mem_tasks _ a (List.mem_of_mem_take ht)

/-- A reconnect of a started guest whose mapping has changed, with jumps before it. -/
theorem jumps_lead_to_whole_chains_spark :
    let old := Declaration.spark ⟨192, 168, 1, 194⟩
    let new := { old with portMap := [⟨1200, 3000, .udp⟩], externalIp := some ⟨10, 0, 0, 7⟩ }
    let s := old.run Kernel.steadyRunner (Kernel.bare, 0) .start
    s.1.IsTarget .nat (Chains.named "spark").ingress.name ∧
      ∃ batch, new.compile .reconnect = .ok batch ∧ ∀ n,
        let between := (Batch.execute Kernel.steadyRunner (batch.take n) s).2
        (∃ p, (batch.execute Kernel.steadyRunner s).2
          = (Batch.executeFrom Kernel.steadyRunner.run p (batch.drop n) between).2) ∧
        between.1.JumpsLeadToWhole (Chains.named "spark")
          (old.planFor (Chains.named "spark") ⟨192, 168, 1, 194⟩ ⟨192, 168, 122, 101⟩)
          (new.planFor (Chains.named "spark") ⟨192, 168, 1, 194⟩ ⟨192, 168, 122, 101⟩) := by
  intro old new s
  have hold : old.Addressed "spark" ⟨192, 168, 1, 194⟩ ⟨192, 168, 122, 101⟩ := ⟨rfl, rfl, rfl⟩
  have hnew : new.Addressed "spark" ⟨192, 168, 1, 194⟩ ⟨192, 168, 122, 101⟩ := ⟨rfl, rfl, rfl⟩
  have hclear : (Prod.fst (Kernel.bare, 0)).Clear (Chains.named "spark") := Kernel.clear_spark
  have hs : Prod.fst s = Prod.fst (Kernel.bare, 0) ∨
      Prod.fst s = Prod.fst (old.run Kernel.steadyRunner (Kernel.bare, 0) .start) := .inr rfl
  refine ⟨by decide +kernel, ?_⟩
  exact jumps_lead_to_whole_chains Kernel.drives_steadyRunner Chains.ofGuest_spark hold hnew
    hclear hs .reconnect

end Kernels

end GuestPorts
