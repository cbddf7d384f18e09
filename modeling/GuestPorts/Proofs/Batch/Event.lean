/-
  GuestPorts/Proofs/Batch/Event.lean
  ==================================
  **One event of a guest**, from its declaration to the kernel.

  For a declaration with both addresses the batch of an action is a list of tasks
  (`Declaration.Addressed.compile_eq`).  When nothing fails without a reason, running it
  does to the kernel what `Footprint.after` says (`Runner.Drives.run_shows`); in any case
  it leaves the jumps in order (`run_orderly`).
-/
import GuestPorts.Proofs.Batch.Undisturbed

namespace GuestPorts

/-! ### Declarations with an address on each side -/

namespace Declaration

/-- A declaration of a guest that has both addresses. -/
structure Addressed (d : Declaration) (vmName : String) (host guest : Address) : Prop where
  vmName_eq : d.vmName = vmName
  hostIp_eq : d.hostIp = some host
  privateIp_eq : d.privateIp = some guest

def planFor (d : Declaration) (cs : Chains) (host guest : Address) : Batch.Plan where
  chains := cs
  host := host
  guest := guest
  source := d.externalIp
  interface := d.interface
  forwards := d.forwards

/-- The state behind the batch of an action. -/
def run {σ : Type} (d : Declaration) (runner : Runner σ) (s : σ) (a : Action) : σ :=
  match d.compile a with
  | .ok batch => (batch.execute runner s).2
  | .error _ => s

variable {d : Declaration} {vmName : String} {cs : Chains} {host guest : Address}

theorem Addressed.plan_eq (h : d.Addressed vmName host guest)
    (hcs : Chains.ofGuest vmName = .ok cs) : d.plan = .ok (d.planFor cs host guest) := by
  unfold plan
  rw [h.vmName_eq, hcs, h.hostIp_eq, h.privateIp_eq]
  rfl

/-- With a plan, every action has its batch. -/
theorem compile_of_plan {p : Batch.Plan} (h : d.plan = .ok p) (a : Action) :
    d.compile a = .ok (p.batch a) := by
  cases a with
  | start => simp only [compile, h]; rfl
  | stopped => simp only [compile, h]; rfl
  | reconnect => simp only [compile, h]; rfl
  | _ => rfl

/-- A plan comes from the chains of the guest and from its two addresses. -/
theorem of_plan_eq_ok {p : Batch.Plan} (h : d.plan = .ok p) :
    ∃ host guest, d.Addressed d.vmName host guest ∧ Chains.ofGuest d.vmName = .ok p.chains ∧
      p = d.planFor p.chains host guest := by
  unfold plan at h
  cases hcs : Chains.ofGuest d.vmName with
  | error e =>
    rw [hcs] at h
    cases h
  | ok cs =>
    rw [hcs] at h
    cases hhost : d.hostIp with
    | none =>
      rw [hhost] at h
      cases h
    | some host =>
      cases hguest : d.privateIp with
      | none =>
        rw [hhost, hguest] at h
        cases h
      | some guest =>
        rw [hhost, hguest] at h
        cases h
        exact ⟨host, guest, ⟨rfl, hhost, hguest⟩, rfl, rfl⟩

/-- A batch with rules in it is that of the plan. -/
theorem of_compile_eq_ok {a : Action} (ha : a.drivesRules = true) {batch : Batch}
    (h : d.compile a = .ok batch) : ∃ p, d.plan = .ok p ∧ batch = p.batch a := by
  cases a with
  | start | stopped | reconnect =>
    obtain ⟨p, hp, h⟩ := Except.bind_eq_ok.1 h
    cases h
    exact ⟨p, hp, rfl⟩
  | _ => cases ha

theorem exists_plan_eq_error (h : d.hostIp = none ∨ d.privateIp = none) :
    ∃ e, d.plan = .error e := by
  cases hplan : d.plan with
  | error e => exact ⟨e, rfl⟩
  | ok p =>
    obtain ⟨host, guest, haddressed, -, -⟩ := of_plan_eq_ok hplan
    rw [haddressed.hostIp_eq, haddressed.privateIp_eq] at h
    rcases h with h | h <;> cases h

/-- An action that drives no rules runs nothing. -/
theorem run_of_inert {σ : Type} (d : Declaration) (runner : Runner σ) {a : Action}
    (ha : a.drivesRules = false) (s : σ) : d.run runner s a = s := by
  cases a with
  | start => cases ha
  | stopped => cases ha
  | reconnect => cases ha
  | _ => rfl

/-- Without both addresses no action runs anything. -/
theorem run_of_missing {σ : Type} (h : d.hostIp = none ∨ d.privateIp = none) (runner : Runner σ)
    (s : σ) (a : Action) : d.run runner s a = s := by
  obtain ⟨e, he⟩ := exists_plan_eq_error h
  unfold run
  cases a with
  | start => simp only [compile, he]; rfl
  | stopped => simp only [compile, he]; rfl
  | reconnect => simp only [compile, he]; rfl
  | _ => rfl

end Declaration

/-- Whether a guest whose last event was this one has its rules. -/
def Action.leavesRules : Option Action → Bool
  | none | some .stopped => false
  | some _ => true

/-- Compiling a declaration with both addresses makes its plan's tasks. -/
theorem Declaration.Addressed.compile_eq {d : Declaration} {vmName : String} {cs : Chains}
    {host guest : Address} (h : d.Addressed vmName host guest)
    (hcs : Chains.ofGuest vmName = .ok cs) (a : Action) :
    d.compile a = .ok (((d.planFor cs host guest).tasks a).map (Task.command cs)) := by
  have hp : (d.planFor cs host guest).chains.Proper := Chains.proper_of_ofGuest hcs
  rw [Declaration.compile_of_plan (h.plan_eq hcs), Batch.Plan.batch_eq_map hp]
  rfl

namespace Footprint

/-- The footprint that an action leaves when nothing fails without a reason. -/
def after (f : Footprint) (p : Batch.Plan) (a : Action) : Footprint :=
  ((p.tasks a).foldl perform ({}, f)).2

variable {f : Footprint} {p : Batch.Plan}

theorem after_stopped (f : Footprint) (p : Batch.Plan) :
    f.after p .stopped = f.stopped p.host p.guest :=
  congrArg Prod.snd (foldl_stop p f)

theorem after_reconnect (f : Footprint) (p : Batch.Plan) :
    f.after p .reconnect = (f.stopped p.host p.guest).after p .start := by
  simp only [after, Batch.Plan.tasks, List.foldl_append, foldl_stop]

theorem empty_after_start (hp : p.chains.Proper) : empty.after p .start = started p :=
  congrArg Prod.snd (foldl_start hp)

theorem after_start_grown {r : Role} (hr : (f.chains r).isSome) : Grown f (f.after p .start) :=
  start_grown p hr

theorem Grown.eq_of_there {f f' : Footprint} (h : Grown f f') (hf : ∀ r, (f.chains r).isSome) :
    f' = f := by
  refine ext (fun g => by rw [h.jumps]) fun r => ?_
  rcases h.chains r with he | ⟨hn, -⟩
  · exact he
  · have hr := hf r
    rw [hn] at hr
    cases hr

/-- What is there of a guest whose last event was this one. -/
def settled (p : Batch.Plan) (last : Option Action) : Footprint :=
  if Action.leavesRules last then started p else .empty

/-- Either nothing is there or everything, and the next event alone decides which. -/
theorem settled_after (hp : p.chains.Proper) (last : Option Action) {a : Action}
    (ha : a.drivesRules = true) : (settled p last).after p a = settled p (some a) := by
  have hgone : (settled p last).stopped p.host p.guest = .empty := by
    apply stopped_eq_empty
    intro g
    unfold settled
    split
    · simp [started]
    · rfl
  cases a with
  | start =>
    unfold settled
    split
    · exact (after_start_grown (r := .ingress) rfl).eq_of_there fun _ => rfl
    · exact empty_after_start hp
  | stopped =>
    rw [after_stopped, hgone]
    rfl
  | reconnect =>
    rw [after_reconnect, hgone, empty_after_start hp]
    rfl
  | _ => cases ha

end Footprint

/-- The tasks of any action leave the jumps in order, whatever of them fails. -/
theorem Footprint.foldl_tasks_orderly {p : Batch.Plan} {a : Action} {trace : List (Task × Bool)}
    (htrace : trace.map Prod.fst = p.tasks a) {x : Batch.Progress × Footprint}
    (hx : Orderly p.host p.guest x.2) : Orderly p.host p.guest (trace.foldl attempt x).2 := by
  cases a with
  | start => exact foldl_start_orderly htrace hx
  | stopped => exact foldl_stop_orderly htrace hx
  | reconnect =>
    obtain ⟨stops, starts, rfl, hstops, hstarts⟩ := List.map_eq_append_iff.1 htrace
    rw [List.foldl_append]
    exact foldl_start_orderly hstarts (foldl_stop_orderly hstops hx)
  | _ =>
    cases List.map_eq_nil_iff.1 htrace
    exact hx

namespace Runner.Drives

open Footprint (attempt perform Shows Orderly)

variable {σ : Type} {runner : Runner σ} {kernel : σ → Kernel} {spurious : Command → σ → Prop}
  {cs : Chains} {base : Kernel} {f : Footprint} {s : σ}

/-! ### One action -/

theorem execute_shows (hd : runner.Drives kernel spurious) (hp : cs.Proper)
    (hclear : base.Clear cs) {tasks : List Task} (htasks : ∀ t ∈ tasks, t.move.IsPlain)
    (h : Shows cs base f (kernel s)) :
    ∃ trace : List (Task × Bool), trace.map Prod.fst = tasks ∧
      (∀ e ∈ trace, e.2 = true → ∃ c s, spurious c s) ∧
      Shows cs base (trace.foldl attempt ({}, f)).2
        (kernel (Batch.execute runner (tasks.map (Task.command cs)) s).2) := by
  obtain ⟨trace, hmap, hfaults, htracks⟩ :=
    hd.foldl_tracks hp hclear htasks (y := ({}, f)) (x := ({}, s)) ⟨rfl, h⟩
  refine ⟨trace, hmap, hfaults, ?_⟩
  rw [Batch.snd_execute]
  exact htracks.shows

/-- When nothing fails without a reason, all tasks are performed. -/
theorem execute_shows_perform (hd : runner.Drives kernel Runner.never) (hp : cs.Proper)
    (hclear : base.Clear cs) {tasks : List Task} (htasks : ∀ t ∈ tasks, t.move.IsPlain)
    (h : Shows cs base f (kernel s)) :
    Shows cs base (tasks.foldl perform ({}, f)).2
      (kernel (Batch.execute runner (tasks.map (Task.command cs)) s).2) := by
  obtain ⟨trace, hmap, hfaults, hshows⟩ := hd.execute_shows hp hclear htasks h
  have htrace : tasks.map (fun t => (t, false)) = trace := by
    rw [← hmap, List.map_map]
    refine (List.map_congr_left fun e he => ?_).trans (List.map_id trace)
    have hfault : e.2 = false := by
      by_contra hne
      obtain ⟨c, s', hnever⟩ := hfaults e he (by simpa using hne)
      exact hnever
    exact Prod.ext rfl hfault.symm
  rw [← htrace, List.foldl_map] at hshows
  exact hshows

variable {d : Declaration} {vmName : String} {host guest : Address}

/-- **One event does to the kernel what its action does to the footprint.** -/
theorem run_shows (hd : runner.Drives kernel Runner.never)
    (hcs : Chains.ofGuest vmName = .ok cs) (hclear : base.Clear cs)
    (haddr : d.Addressed vmName host guest) (h : Shows cs base f (kernel s)) (a : Action) :
    Shows cs base (f.after (d.planFor cs host guest) a) (kernel (d.run runner s a)) := by
  unfold Declaration.run
  rw [haddr.compile_eq hcs a]
  exact hd.execute_shows_perform (Chains.proper_of_ofGuest hcs) hclear
    (fun t ht => Batch.Plan.isPlain_of_mem_tasks _ a ht) h

/-- **One event leaves the jumps in order**, whatever of it fails. -/
theorem run_orderly (hd : runner.Drives kernel spurious)
    (hcs : Chains.ofGuest vmName = .ok cs) (hclear : base.Clear cs)
    (haddr : d.Addressed vmName host guest) (h : Shows cs base f (kernel s))
    (hf : Orderly host guest f) (a : Action) :
    ∃ f', Orderly host guest f' ∧ Shows cs base f' (kernel (d.run runner s a)) := by
  unfold Declaration.run
  rw [haddr.compile_eq hcs a]
  obtain ⟨trace, htrace, -, hshows⟩ := hd.execute_shows (Chains.proper_of_ofGuest hcs) hclear
    (fun t ht => Batch.Plan.isPlain_of_mem_tasks _ a ht) h
  exact ⟨_, Footprint.foldl_tasks_orderly htrace hf, hshows⟩

end Runner.Drives

/-! ### A guest for examples -/

/-- A guest with one mapping, behind this address of the host. -/
def Declaration.spark (host : Address) : Declaration where
  vmName := "spark"
  portMap := [⟨1100, 3000, .tcp⟩]
  hostIp := some host
  privateIp := some ⟨192, 168, 122, 101⟩

theorem Chains.ofGuest_spark : Chains.ofGuest "spark" = .ok (Chains.named "spark") := by
  decide +kernel

theorem Kernel.clear_spark : Kernel.bare.Clear (Chains.named "spark") where
  absent := fun r => by cases r <;> decide +kernel
  unmentioned := fun r => by cases r <;> decide +kernel

end GuestPorts
