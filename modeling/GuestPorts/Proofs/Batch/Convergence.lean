/-
  GuestPorts/Proofs/Batch/Convergence.lean
  ========================================
  **Where the kernel ends up** after the events of a guest.

  As long as a guest keeps its addresses, its jumps stay in order through every history;
  so a stop that nothing disturbs brings the kernel back to what it was without the guest,
  and a reconnect brings it to what a first start makes of it
  (`stop_and_reconnect_converge`).  Without failures for no reason there are only two
  kernels for a declaration, and the last event decides between them
  (`last_event_decides`).
-/
import GuestPorts.Proofs.Batch.Event

namespace GuestPorts

/-! ### Everything a start puts in, on the kernel -/

/-- The kernel with one more rule in front of a chain's. -/
def Kernel.prepend (k : Kernel) (t : Table) (n : String) (x : Rule) : Kernel :=
  k.put t n (x :: (k.rules t n).getD [])

/-- The kernel with a plan's three chains, each filled with the plan's rules for it, and
    with the jumps to them in front of the four built-in chains. -/
def Kernel.install (k : Kernel) (p : Batch.Plan) : Kernel :=
  let filled := p.chains.toList.foldl
    (fun k c => k.put c.table c.name (p.populate.rulesFor c.table c.name)) k
  (Batch.jumps p.chains p.host p.guest).foldl
    (fun k j => k.prepend j.1 j.2.1 (.ofArgs j.2.2)) filled

namespace Footprint

variable {cs : Chains} {base k : Kernel} {f : Footprint}

theorem Shows.prepend (hp : cs.Proper) (h : Shows cs base f k) (g : Gate) (a : Address) :
    Shows cs base (f.setJumps g (a :: f.jumps g)) (k.prepend g.table g.chain (g.rule cs a)) := by
  obtain ⟨rs, hrs⟩ := base.exists_rules_of_builtin g.chain_mem_builtins
  have hrules : k.rules g.table g.chain = some ((f.jumps g).map (g.rule cs) ++ rs) :=
    (h.gate g).trans (by rw [hrs, Option.map_some])
  unfold Kernel.prepend
  rw [hrules]
  exact h.put_gate hp g (a :: f.jumps g) hrs

theorem isPlain_of_mem_rulesFor {p : Batch.Plan} (hp : p.chains.Proper) {t : Table} {n : String}
    {x : Rule} (h : x ∈ p.populate.rulesFor t n) : x.IsPlain := by
  rw [p.populate_eq_map hp] at h
  obtain ⟨c, hc, rfl⟩ := List.mem_map.1 h
  obtain ⟨u, hu, rfl⟩ := List.mem_map.1 (List.mem_of_mem_filter hc)
  obtain ⟨r, args, number, rfl, hplain⟩ := p.isFill_of_mem_fills hu
  exact hplain

/-- What an installed plan shows is the footprint of a started guest. -/
theorem shows_install {p : Batch.Plan} (hp : p.chains.Proper) (hclear : base.Clear p.chains) :
    Shows p.chains base (started p) (base.install p) := by
  have hplain (r : Role) : ∀ x ∈ p.populate.rulesFor r.table (p.chains.get r).name, x.IsPlain :=
    fun _ hx => isPlain_of_mem_rulesFor hp hx
  have hfilled := (((Shows.of_clear hclear).put_own hp .ingress (hplain .ingress)).put_own hp
    .egress (hplain .egress)).put_own hp .forward (hplain .forward)
  have hlinked := (((hfilled.prepend hp .output p.host).prepend hp .prerouting p.host).prepend hp
    .postrouting p.guest).prepend hp .forward p.guest
  convert hlinked using 1
  · refine ext (fun g => ?_) fun r => ?_
    · cases g <;> simp [started, empty, Gate.address]
    · cases r <;> simp [started, empty]
  · unfold Kernel.install
    rw [Batch.jumps_eq_map hp]
    simp only [Chains.toList, List.foldl_cons, List.foldl_nil, Gate.all, List.map_cons,
      List.map_nil, hp.table_ingress, hp.table_egress, hp.table_forward]
    rfl

end Footprint

/-! ### Histories -/

section Histories

open Footprint (Shows Orderly settled)

variable {σ : Type} {kernel : σ → Kernel} {spurious : Command → σ → Prop}
  {vmName : String} {cs : Chains} {host guest : Address}

/-- After any history of one guest with fixed addresses the jumps are in order. -/
theorem Runner.Drives.foldl_orderly {runner : Runner σ} (hd : runner.Drives kernel spurious)
    (hcs : Chains.ofGuest vmName = .ok cs) {base : Kernel} (hclear : base.Clear cs)
    {history : List (Declaration × Action)}
    (hhistory : ∀ e ∈ history, e.1.Addressed vmName host guest) {f : Footprint} {s : σ}
    (h : Shows cs base f (kernel s)) (hf : Orderly host guest f) :
    ∃ f', Orderly host guest f' ∧
      Shows cs base f' (kernel (history.foldl (fun s e => e.1.run runner s e.2) s)) := by
  induction history generalizing f s with
  | nil => exact ⟨f, hf, h⟩
  | cons e rest ih =>
    obtain ⟨f', hf', h'⟩ :=
      hd.run_orderly hcs hclear (hhistory e List.mem_cons_self) h hf e.2
    exact ih (fun u hu => hhistory u (List.mem_cons_of_mem _ hu)) h' hf'

/-- **Whatever failed before, one undisturbed stop takes the guest out of the kernel, and
    one undisturbed reconnect makes the kernel what a first start makes of it.** -/
theorem stop_and_reconnect_converge {flaky steady : Runner σ}
    (hflaky : flaky.Drives kernel spurious) (hsteady : steady.Drives kernel Runner.never)
    (hcs : Chains.ofGuest vmName = .ok cs) {s₀ : σ} (hclear : (kernel s₀).Clear cs)
    {history : List (Declaration × Action)}
    (hhistory : ∀ e ∈ history, e.1.Addressed vmName host guest)
    {d : Declaration} (hd : d.Addressed vmName host guest) :
    let s := history.foldl (fun s e => e.1.run flaky s e.2) s₀
    kernel (d.run steady s .stopped) = kernel s₀ ∧
      kernel (d.run steady s .reconnect) = kernel (d.run steady s₀ .start) := by
  intro s
  have hfirst : Shows cs (kernel s₀) .empty (kernel s₀) := .of_clear hclear
  obtain ⟨f, horderly, hshows⟩ :=
    hflaky.foldl_orderly hcs hclear hhistory hfirst Footprint.orderly_empty
  have hgone : f.stopped host guest = .empty := horderly.stopped_eq_empty
  constructor
  · have hstop := hsteady.run_shows hcs hclear hd hshows .stopped
    rw [Footprint.after_stopped] at hstop
    exact Shows.eq_base hclear (hgone ▸ hstop)
  · have hreconnect := hsteady.run_shows hcs hclear hd hshows .reconnect
    have hstart := hsteady.run_shows hcs hclear hd hfirst .start
    rw [Footprint.after_reconnect] at hreconnect
    exact Shows.unique (hgone ▸ hreconnect) hstart

/-- Two events during which every third command fails, then one that is not disturbed. -/
theorem stop_and_reconnect_converge_spark :
    let spark := Declaration.spark ⟨192, 168, 1, 194⟩
    let s := [(spark, Action.start), (spark, .reconnect)].foldl
      (fun s e => e.1.run (Kernel.runner fun n => n % 3 = 2) s e.2) (Kernel.bare, 0)
    (spark.run Kernel.steadyRunner s .stopped).1 = Kernel.bare ∧
      (spark.run Kernel.steadyRunner s .reconnect).1
        = (spark.run Kernel.steadyRunner (Kernel.bare, 0) .start).1 := by
  refine stop_and_reconnect_converge (Kernel.drives_runner _) Kernel.drives_steadyRunner
    Chains.ofGuest_spark Kernel.clear_spark (fun e he => ?_) ⟨rfl, rfl, rfl⟩
  rcases List.mem_pair.1 he with rfl | rfl <;> exact ⟨rfl, rfl, rfl⟩

theorem Runner.Drives.foldl_settled {runner : Runner σ} (hr : runner.Drives kernel Runner.never)
    (hcs : Chains.ofGuest vmName = .ok cs) {base : Kernel} (hclear : base.Clear cs)
    {d : Declaration} (hd : d.Addressed vmName host guest) {s : σ}
    (h : Shows cs base .empty (kernel s)) {actions : List Action}
    (hactions : ∀ a ∈ actions, a.drivesRules = true) :
    Shows cs base (settled (d.planFor cs host guest) actions.getLast?)
      (kernel (actions.foldl (d.run runner) s)) := by
  induction actions using List.reverseRecOn with
  | nil => exact h
  | append_singleton before a ih =>
    have hbefore := ih fun b hb => hactions b (List.mem_append_left _ hb)
    have ha : a.drivesRules = true := hactions a (by simp)
    rw [List.foldl_append, List.getLast?_concat,
      ← Footprint.settled_after (Chains.proper_of_ofGuest hcs) before.getLast? ha]
    exact hr.run_shows hcs hclear hd hbefore a

/-- **The last event decides**: after any events of one declaration the kernel is what it
    was without the guest or has its plan installed. -/
theorem last_event_decides {runner : Runner σ} (hr : runner.Drives kernel Runner.never)
    (hcs : Chains.ofGuest vmName = .ok cs) {s : σ} (hclear : (kernel s).Clear cs)
    {d : Declaration} (hd : d.Addressed vmName host guest) {actions : List Action}
    (hactions : ∀ a ∈ actions, a.drivesRules = true) :
    kernel (actions.foldl (d.run runner) s)
      = if Action.leavesRules actions.getLast? then (kernel s).install (d.planFor cs host guest)
        else kernel s := by
  have hshows := hr.foldl_settled hcs hclear hd (.of_clear hclear) hactions
  unfold settled at hshows
  split at hshows
  · next hlast =>
    rw [if_pos hlast]
    exact hshows.unique
      (Footprint.shows_install (p := d.planFor cs host guest) (Chains.proper_of_ofGuest hcs) hclear)
  · next hlast =>
    rw [if_neg hlast]
    exact Shows.eq_base hclear hshows

theorem last_event_decides_spark :
    ([Action.stopped, .start, .start, .reconnect].foldl
        ((Declaration.spark ⟨192, 168, 1, 194⟩).run Kernel.steadyRunner) (Kernel.bare, 0)).1
      = Kernel.bare.install ((Declaration.spark ⟨192, 168, 1, 194⟩).planFor (Chains.named "spark")
          ⟨192, 168, 1, 194⟩ ⟨192, 168, 122, 101⟩) := by
  have hactions : ∀ a ∈ [Action.stopped, .start, .start, .reconnect], a.drivesRules = true := by
    decide
  have haddr : (Declaration.spark ⟨192, 168, 1, 194⟩).Addressed "spark" ⟨192, 168, 1, 194⟩
      ⟨192, 168, 122, 101⟩ := ⟨rfl, rfl, rfl⟩
  exact (last_event_decides Kernel.drives_steadyRunner Chains.ofGuest_spark
    (s := (Kernel.bare, 0)) Kernel.clear_spark haddr hactions).trans (if_pos rfl)

end Histories

end GuestPorts
