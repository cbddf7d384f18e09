/-
  GuestPorts/Proofs/Batch/Tasks.lean
  ==================================
  **Compiled batches are lists of tasks**: what a start and a stop make of a plan, phase by
  phase, as moves on the guest's footprint.

  The rules that fill the chains jump to no chain (`Batch.Plan.isFill_of_mem_fills`), so
  the only references to a guest's chains are the jumps of its own links.
-/
import GuestPorts.Proofs.Batch.Work

namespace GuestPorts

/-! ### The phases that do not depend on the forwards -/

namespace Task

def creates : List Task := Role.all.map fun r => ⟨.create r, .create⟩

def destroys : List Task := Role.all.flatMap fun r => [⟨.flush r, .destroy⟩, ⟨.discard r, .destroy⟩]

def links (host guest : Address) : List Task :=
  Gate.all.map fun g => ⟨.link g (g.address host guest), .link⟩

def unlinks (host guest : Address) : List Task :=
  Gate.all.map fun g => ⟨.unlink g (g.address host guest), .unlink⟩

/-- A task that fills a chain with a rule that jumps to no chain. -/
def IsFill (t : Task) : Prop :=
  ∃ r args n, t = ⟨.fill r args, .populate n⟩ ∧ (Rule.ofArgs args).IsPlain

theorem IsFill.isPlain {t : Task} (h : t.IsFill) : t.move.IsPlain := by
  obtain ⟨r, x, n, rfl, hx⟩ := h
  exact hx

end Task

namespace Batch

variable {cs : Chains} (hp : cs.Proper)
include hp

theorem create_eq_map : create cs = Task.creates.map (Task.command cs) := by
  simp [create, Chains.toList, Chain.command, Task.creates, Role.all, Task.command, Move.command,
    Chains.get, hp.table_ingress, hp.table_egress, hp.table_forward]

theorem destroy_eq_map : destroy cs = Task.destroys.map (Task.command cs) := by
  simp [destroy, Chains.toList, Chain.command, Task.destroys, Role.all, Task.command, Move.command,
    Chains.get, hp.table_ingress, hp.table_egress, hp.table_forward]

/-- The jumps are those of the gates. -/
theorem jumps_eq_map (host guest : Address) :
    jumps cs host guest
      = Gate.all.map fun g => (g.table, g.chain, g.args cs (g.address host guest)) := by
  simp [jumps, Gate.all, Gate.table, Gate.role, Gate.chain, Gate.args, Gate.address,
    hp.table_forward,
    Role.table]

theorem link_insert_eq_map (host guest : Address) :
    link cs host guest .insert = (Task.links host guest).map (Task.command cs) := by
  unfold link Task.links
  rw [jumps_eq_map hp, List.map_map, List.map_map]
  rfl

theorem link_delete_eq_map (host guest : Address) :
    link cs host guest .delete = (Task.unlinks host guest).map (Task.command cs) := by
  unfold link Task.unlinks
  rw [jumps_eq_map hp, List.map_map, List.map_map]
  rfl

end Batch

/-! ### Filling the chains -/

namespace Batch.Plan

def fillTasks (p : Plan) (f : Forward) (number : Nat) : List Task :=
  let stage := Stage.populate number
  [⟨.fill .ingress (p.ingressRule f stage).args, stage⟩,
   ⟨.fill .egress (p.sourceRule f stage).args, stage⟩,
   ⟨.fill .egress (p.hairpinRule f stage).args, stage⟩,
   ⟨.fill .forward (p.acceptRule f stage).args, stage⟩]

/-- The tasks of the forwards, numbered from `number` on. -/
def fillsFrom (p : Plan) : Nat → List Forward → List Task
  | _, [] => []
  | number, f :: fs => p.fillTasks f number ++ fillsFrom p (number + 1) fs

def fills (p : Plan) : List Task := p.fillsFrom 0 p.forwards

def startTasks (p : Plan) : List Task := Task.creates ++ p.fills ++ Task.links p.host p.guest

def stopTasks (p : Plan) : List Task := Task.unlinks p.host p.guest ++ Task.destroys

theorem block_eq_map {p : Plan} (hp : p.chains.Proper) (f : Forward) (number : Nat) :
    p.block f number = (p.fillTasks f number).map (Task.command p.chains) := by
  simp [block, fillTasks, ingressRule, sourceRule, hairpinRule, acceptRule, Chain.rule,
    Task.command, Move.command, Chains.get, hp.table_ingress, hp.table_egress, hp.table_forward]

theorem blocksFrom_eq_map {p : Plan} (hp : p.chains.Proper) (number : Nat) (fs : List Forward) :
    p.blocksFrom number fs = (p.fillsFrom number fs).map (Task.command p.chains) := by
  induction fs generalizing number with
  | nil => rfl
  | cons f fs ih => rw [blocksFrom, fillsFrom, List.map_append, block_eq_map hp, ih]

theorem populate_eq_map {p : Plan} (hp : p.chains.Proper) :
    p.populate = p.fills.map (Task.command p.chains) :=
  blocksFrom_eq_map hp 0 p.forwards

theorem start_eq_map {p : Plan} (hp : p.chains.Proper) :
    p.start = p.startTasks.map (Task.command p.chains) := by
  rw [start, startTasks, List.map_append, List.map_append, create_eq_map hp, populate_eq_map hp,
    link_insert_eq_map hp]

theorem stop_eq_map {p : Plan} (hp : p.chains.Proper) :
    p.stop = p.stopTasks.map (Task.command p.chains) := by
  rw [stop, stopTasks, List.map_append, destroy_eq_map hp, link_delete_eq_map hp]

theorem reconnect_eq_map {p : Plan} (hp : p.chains.Proper) :
    p.reconnect = (p.stopTasks ++ p.startTasks).map (Task.command p.chains) := by
  rw [reconnect, List.map_append, stop_eq_map hp, start_eq_map hp]

/-! ### The rules jump to no chain -/

theorem isPlain_ingressRule (p : Plan) (f : Forward) (stage : Stage) :
    (p.ingressRule f stage).rule.IsPlain := by
  refine ⟨"DNAT", by decide, ?_⟩
  cases h : p.source <;>
    simp [ingressRule, Chain.rule, Command.rule, optional, h, Rule.ofArgs, Rule.targetOf]

theorem isPlain_sourceRule (p : Plan) (f : Forward) (stage : Stage) :
    (p.sourceRule f stage).rule.IsPlain :=
  ⟨"SNAT", by decide, by simp [sourceRule, Chain.rule, Command.rule, Rule.ofArgs, Rule.targetOf]⟩

theorem isPlain_hairpinRule (p : Plan) (f : Forward) (stage : Stage) :
    (p.hairpinRule f stage).rule.IsPlain :=
  ⟨"MASQUERADE", by decide, by
    simp [hairpinRule, Chain.rule, Command.rule, Rule.ofArgs, Rule.targetOf]⟩

theorem isPlain_acceptRule (p : Plan) (f : Forward) (stage : Stage) :
    (p.acceptRule f stage).rule.IsPlain := by
  refine ⟨"ACCEPT", by decide, ?_⟩
  cases h : p.interface <;>
    simp [acceptRule, Chain.rule, Command.rule, optional, h, Rule.ofArgs, Rule.targetOf]

theorem isFill_of_mem_fillsFrom (p : Plan) (number : Nat) (fs : List Forward) {t : Task}
    (h : t ∈ p.fillsFrom number fs) : t.IsFill := by
  induction fs generalizing number with
  | nil => cases h
  | cons f fs ih =>
    rcases List.mem_append.1 h with hblock | hrest
    · simp only [fillTasks, List.mem_cons, List.not_mem_nil, or_false] at hblock
      rcases hblock with rfl | rfl | rfl | rfl
      · exact ⟨_, _, _, rfl, p.isPlain_ingressRule f _⟩
      · exact ⟨_, _, _, rfl, p.isPlain_sourceRule f _⟩
      · exact ⟨_, _, _, rfl, p.isPlain_hairpinRule f _⟩
      · exact ⟨_, _, _, rfl, p.isPlain_acceptRule f _⟩
    · exact ih (number + 1) hrest

/-- Filling is all that is done between creating and linking. -/
theorem isFill_of_mem_fills (p : Plan) {t : Task} (h : t ∈ p.fills) : t.IsFill :=
  p.isFill_of_mem_fillsFrom 0 p.forwards h

theorem isPlain_of_mem_stopTasks (p : Plan) {t : Task} (h : t ∈ p.stopTasks) :
    t.move.IsPlain := by
  rcases List.mem_append.1 h with hunlink | hdestroy
  · obtain ⟨g, -, rfl⟩ := List.mem_map.1 hunlink
    trivial
  · obtain ⟨r, -, hr⟩ := List.mem_flatMap.1 hdestroy
    rcases List.mem_pair.1 hr with rfl | rfl <;> trivial

/-- A stop links nothing. -/
theorem ne_link_of_mem_stopTasks (p : Plan) {t : Task} (h : t ∈ p.stopTasks) (g : Gate)
    (a : Address) : t.move ≠ .link g a := by
  intro hlink
  rcases List.mem_append.1 h with hunlink | hdestroy
  · obtain ⟨g', -, rfl⟩ := List.mem_map.1 hunlink
    cases hlink
  · obtain ⟨r, -, hr⟩ := List.mem_flatMap.1 hdestroy
    rcases List.mem_pair.1 hr with rfl | rfl <;> cases hlink

theorem isPlain_of_mem_startTasks (p : Plan) {t : Task} (h : t ∈ p.startTasks) :
    t.move.IsPlain := by
  rcases List.mem_append.1 h with hmade | hlink
  · rcases List.mem_append.1 hmade with hcreate | hfill
    · obtain ⟨r, -, rfl⟩ := List.mem_map.1 hcreate
      trivial
    · exact (p.isFill_of_mem_fills hfill).isPlain
  · obtain ⟨g, -, rfl⟩ := List.mem_map.1 hlink
    trivial

/-! ### Actions -/

def batch (p : Plan) : Action → Batch
  | .start => p.start
  | .stopped => p.stop
  | .reconnect => p.reconnect
  | _ => []

def tasks (p : Plan) : Action → List Task
  | .start => p.startTasks
  | .stopped => p.stopTasks
  | .reconnect => p.stopTasks ++ p.startTasks
  | _ => []

theorem batch_eq_map {p : Plan} (hp : p.chains.Proper) (a : Action) :
    p.batch a = (p.tasks a).map (Task.command p.chains) := by
  cases a with
  | start => exact start_eq_map hp
  | stopped => exact stop_eq_map hp
  | reconnect => exact reconnect_eq_map hp
  | _ => rfl

theorem isPlain_of_mem_tasks (p : Plan) (a : Action) {t : Task} (h : t ∈ p.tasks a) :
    t.move.IsPlain := by
  cases a with
  | start => exact p.isPlain_of_mem_startTasks h
  | stopped => exact p.isPlain_of_mem_stopTasks h
  | reconnect =>
    rcases List.mem_append.1 h with hstop | hstart
    · exact p.isPlain_of_mem_stopTasks hstop
    · exact p.isPlain_of_mem_startTasks hstart
  | _ => cases h

end Batch.Plan

end GuestPorts
