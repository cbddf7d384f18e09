/-
  GuestPorts/Proofs/Batch/Teardown.lean
  =====================================
  **What can be started can be stopped** (`stop_undoes_start`).

  Whether rules can be made from a declaration does not depend on the action: it needs a usable
  name and both addresses, and what is reported otherwise is the first of these that is missing
  (`Declaration.Obstacle`).  Where it can, the teardown names every jump and every chain in the
  words in which the start names them, so that it takes away just these (`Batch.Undoes`).
-/
import GuestPorts.Proofs.Batch.Event
import GuestPorts.Proofs.Chain.Usable

namespace GuestPorts

/-! ### What rules need -/

namespace Declaration

/-- A declaration that rules can be made from. -/
structure Complete (d : Declaration) : Prop where
  usable : Role.Usable d.vmName
  hostIp : d.hostIp.isSome = true
  privateIp : d.privateIp.isSome = true

/-- The first thing that is missing from a declaration: the name comes before the addresses,
    and the host's address before the guest's. -/
inductive Obstacle (d : Declaration) : CompileError → Prop
  | name (e : NameError) (h : Role.Faulty d.vmName e) : Obstacle d (.name e)
  | hostIp (hname : Role.Usable d.vmName) (h : d.hostIp = none) :
    Obstacle d (.missingAddress d.vmName "host_ip")
  | privateIp (hname : Role.Usable d.vmName) (hhost : d.hostIp.isSome = true)
    (h : d.privateIp = none) : Obstacle d (.missingAddress d.vmName "private_ip")

variable {d : Declaration} {e : CompileError}

theorem complete_or_obstacle (d : Declaration) : d.Complete ∨ ∃ e, d.Obstacle e := by
  rcases Role.usable_or_faulty d.vmName with hname | ⟨e, he⟩
  · cases hhost : d.hostIp with
    | none => exact .inr ⟨_, .hostIp hname hhost⟩
    | some host =>
      have hhost : d.hostIp.isSome = true := Option.isSome_of_eq_some hhost
      cases hguest : d.privateIp with
      | none => exact .inr ⟨_, .privateIp hname hhost hguest⟩
      | some guest => exact .inl ⟨hname, hhost, Option.isSome_of_eq_some hguest⟩
  · exact .inr ⟨_, .name e he⟩

theorem Complete.exists_plan (h : d.Complete) : ∃ p, d.plan = .ok p := by
  obtain ⟨host, hhost⟩ := Option.isSome_iff_exists.1 h.hostIp
  obtain ⟨guest, hguest⟩ := Option.isSome_iff_exists.1 h.privateIp
  have haddressed : d.Addressed d.vmName host guest := ⟨rfl, hhost, hguest⟩
  exact ⟨_, haddressed.plan_eq (Chains.ofGuest_of_usable h.usable)⟩

theorem plan_of_obstacle (h : d.Obstacle e) : d.plan = .error e := by
  unfold plan
  cases h with
  | name e h =>
    rw [Chains.ofGuest_of_faulty h]
    rfl
  | hostIp hname h =>
    rw [Chains.ofGuest_of_usable hname, h]
    rfl
  | privateIp hname hhost h =>
    obtain ⟨host, hhost⟩ := Option.isSome_iff_exists.1 hhost
    rw [Chains.ofGuest_of_usable hname, hhost, h]
    rfl

theorem Obstacle.not_complete (h : d.Obstacle e) : ¬d.Complete := by
  intro hcomplete
  obtain ⟨p, hp⟩ := hcomplete.exists_plan
  rw [plan_of_obstacle h] at hp
  cases hp

theorem compile_of_obstacle (h : d.Obstacle e) {a : Action} (ha : a.drivesRules = true) :
    d.compile a = .error e := by
  cases a with
  | start | stopped | reconnect =>
    unfold compile
    rw [plan_of_obstacle h]
    rfl
  | _ => cases ha

end Declaration

/-! ### What a batch does to what -/

/-- What a command works on: the table, the chain, and the arguments behind it. -/
def Command.object (c : Command) : Table × String × List String := (c.table, c.chain, c.args)

namespace Batch

/-- What a batch does one operation to, in its order. -/
def objects (batch : Batch) (op : ChainOp) : List (Table × String × List String) :=
  (batch.filter fun c => c.op = op).map Command.object

theorem objects_append (front back : Batch) (op : ChainOp) :
    objects (front ++ back) op = front.objects op ++ back.objects op := by
  simp only [objects, List.filter_append, List.map_append]

theorem objects_eq_nil {batch : Batch} {op : ChainOp} (h : ∀ c ∈ batch, c.op ≠ op) :
    batch.objects op = [] := by
  simpa [objects] using h

def chainObjects (chains : Chains) : List (Table × String × List String) :=
  chains.toList.map fun c => (c.table, c.name, [])

theorem objects_create (chains : Chains) (op : ChainOp) :
    (create chains).objects op = if op = .newChain then chainObjects chains else [] := by
  cases op <;> rfl

theorem objects_destroy (chains : Chains) (op : ChainOp) :
    (destroy chains).objects op
      = if op = .flush ∨ op = .deleteChain then chainObjects chains else [] := by
  cases op <;> rfl

theorem objects_link (chains : Chains) (host guest : Address) (op op' : ChainOp) :
    (link chains host guest op).objects op'
      = if op = op' then jumps chains host guest else [] := by
  cases op <;> cases op' <;> rfl

namespace Plan

variable (p : Plan)

theorem exists_rule_of_mem_blocksFrom {number : Nat} {fs : List Forward} {c : Command}
    (h : c ∈ p.blocksFrom number fs) :
    ∃ chain ∈ p.chains.toList, ∃ block args, c = chain.rule (.populate block) args := by
  induction fs generalizing number with
  | nil => cases h
  | cons f fs ih =>
    rcases List.mem_append.1 h with hblock | hrest
    · simp only [block, List.mem_cons, List.not_mem_nil, or_false] at hblock
      rcases hblock with rfl | rfl | rfl | rfl
      · exact ⟨p.chains.ingress, by simp [Chains.toList], number, _, rfl⟩
      · exact ⟨p.chains.egress, by simp [Chains.toList], number, _, rfl⟩
      · exact ⟨p.chains.egress, by simp [Chains.toList], number, _, rfl⟩
      · exact ⟨p.chains.forward, by simp [Chains.toList], number, _, rfl⟩
    · exact ih hrest

theorem objects_populate {op : ChainOp} (h : op ≠ .append) : p.populate.objects op = [] := by
  apply objects_eq_nil
  intro c hc
  obtain ⟨chain, -, block, args, rfl⟩ := p.exists_rule_of_mem_blocksFrom hc
  exact h.symm

theorem objects_start {op : ChainOp} (h : op ≠ .append) :
    p.start.objects op = (create p.chains).objects op
      ++ (link p.chains p.host p.guest .insert).objects op := by
  rw [start, objects_append, objects_append, p.objects_populate h, List.append_nil]

theorem objects_stop (op : ChainOp) :
    p.stop.objects op = (link p.chains p.host p.guest .delete).objects op
      ++ (destroy p.chains).objects op := objects_append _ _ _

end Plan

/-- One batch takes down what another one puts up. -/
structure Undoes (stop start : Batch) : Prop where
  jumps : stop.objects .delete = start.objects .insert
  chains : stop.objects .deleteChain = start.objects .newChain
  length_jumps : (start.objects .insert).length = 4
  length_chains : (start.objects .newChain).length = 3
  /-- Every chain is emptied before, and rules are added to no other. -/
  flushed : stop.objects .flush = start.objects .newChain
  rules : ∀ c ∈ start, c.op = .append → (c.table, c.chain, []) ∈ start.objects .newChain
  /-- A stage does one thing. -/
  start_stages : ∀ c ∈ start,
    (c.stage = .create ↔ c.op = .newChain) ∧ (c.stage = .link ↔ c.op = .insert)
  stop_stages : ∀ c ∈ stop, (c.stage = .unlink ↔ c.op = .delete) ∧
    (c.stage = .destroy ↔ c.op = .flush ∨ c.op = .deleteChain)

namespace Plan

variable (p : Plan)

theorem mem_start {c : Command} (h : c ∈ p.start) :
    (∃ chain ∈ p.chains.toList, c = chain.command .newChain .create) ∨
    (∃ chain ∈ p.chains.toList, ∃ block args, c = chain.rule (.populate block) args) ∨
    (c.op = .insert ∧ c.stage = .link) := by
  rcases List.mem_append.1 h with hmade | hlink
  · rcases List.mem_append.1 hmade with hcreate | hfill
    · obtain ⟨chain, hchain, rfl⟩ := List.mem_map.1 hcreate
      exact .inl ⟨chain, hchain, rfl⟩
    · exact .inr (.inl (p.exists_rule_of_mem_blocksFrom hfill))
  · obtain ⟨j, -, rfl⟩ := List.mem_map.1 hlink
    exact .inr (.inr ⟨rfl, rfl⟩)

/-- **The teardown of a plan undoes its start.** -/
theorem stop_undoes : p.stop.Undoes p.start := by
  have hchains : p.start.objects .newChain = chainObjects p.chains := by
    rw [p.objects_start (by decide), objects_create, objects_link]
    rfl
  have hjumps : p.start.objects .insert = Batch.jumps p.chains p.host p.guest := by
    rw [p.objects_start (by decide), objects_create, objects_link]
    rfl
  constructor
  case jumps =>
    rw [hjumps, objects_stop, objects_link, objects_destroy]
    rfl
  case chains =>
    rw [hchains, objects_stop, objects_link, objects_destroy]
    rfl
  case length_jumps =>
    rw [hjumps]
    rfl
  case length_chains =>
    rw [hchains]
    rfl
  case flushed =>
    rw [hchains, objects_stop, objects_link, objects_destroy]
    rfl
  case rules =>
    intro c hc hop
    rw [hchains]
    rcases p.mem_start hc with ⟨chain, -, rfl⟩ | ⟨chain, hchain, block, args, rfl⟩ | ⟨hinsert, -⟩
    · cases hop
    · exact List.mem_map_of_mem (f := fun c : Chain => (c.table, c.name, [])) hchain
    · rw [hop] at hinsert
      cases hinsert
  case start_stages =>
    intro c hc
    rcases p.mem_start hc with ⟨chain, -, rfl⟩ | ⟨chain, -, block, args, rfl⟩ | ⟨hop, hstage⟩
    · simp [Chain.command]
    · simp [Chain.rule]
    · simp [hop, hstage]
  case stop_stages =>
    intro c hc
    rcases List.mem_append.1 hc with hunlink | hdestroy
    · obtain ⟨j, -, rfl⟩ := List.mem_map.1 hunlink
      simp [jumpStage]
    · obtain ⟨chain, -, hpair⟩ := List.mem_flatMap.1 hdestroy
      rcases List.mem_pair.1 hpair with rfl | rfl <;> simp [Chain.command]

end Plan

end Batch

/-- **What can be started can be stopped**: of a declaration that lacks nothing every action
    makes its rules, a reconnect those of a stop and then those of a start, and the stop undoes
    the start; of any other all three actions fail, for the first thing that is missing. -/
theorem stop_undoes_start (d : Declaration) :
    (d.Complete ∧ ∃ start stop, d.compile .start = .ok start ∧ d.compile .stopped = .ok stop ∧
      d.compile .reconnect = .ok (stop ++ start) ∧ stop.Undoes start) ∨
    (¬d.Complete ∧ ∃ e, d.Obstacle e ∧ d.compile .start = .error e ∧
      d.compile .stopped = .error e ∧ d.compile .reconnect = .error e) := by
  rcases d.complete_or_obstacle with hcomplete | ⟨e, he⟩
  · obtain ⟨p, hp⟩ := hcomplete.exists_plan
    exact .inl ⟨hcomplete, p.start, p.stop, Declaration.compile_of_plan hp .start,
      Declaration.compile_of_plan hp .stopped, Declaration.compile_of_plan hp .reconnect,
      p.stop_undoes⟩
  · exact .inr ⟨he.not_complete, e, he, Declaration.compile_of_obstacle he rfl,
      Declaration.compile_of_obstacle he rfl, Declaration.compile_of_obstacle he rfl⟩

/-- The name comes first. -/
example : ({ vmName := "nur nacht" } : Declaration).compile .stopped
    = .error (.name (.badCharacter "nur nacht" ' ')) := by decide +kernel

end GuestPorts
