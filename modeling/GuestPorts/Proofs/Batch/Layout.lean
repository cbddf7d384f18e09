/-
  GuestPorts/Proofs/Batch/Layout.lean
  ===================================
  **A defective range leaves no trace in what is compiled** (`defective_ranges_leave_no_trace`).

  Blocks are numbered by their place among the forwards (`Batch.Plan.blocksFrom_eq_flatMap`),
  and a defective range is no forward, so it takes no number.
-/
import GuestPorts.Proofs.Batch.Policy

namespace GuestPorts

/-- A declaration with its defective ranges taken out. -/
def Declaration.withoutDefects (d : Declaration) : Declaration :=
  { d with portRanges := d.portRanges.filter fun r => r.defect = none }

/-- Where the command of a populate block goes: its stage, and the end of which chain. -/
def Command.site (c : Command) : Stage × ChainOp × Table × String :=
  (c.stage, c.op, c.table, c.chain)

/-- The layout of a start: `blocks` are the rules of the forwards, numbered from zero. -/
structure StartLayout (p : Batch.Plan) (forwards : List Forward) (batch : Batch)
    (blocks : List Batch) : Prop where
  parts : batch = Batch.create p.chains ++ blocks.flatten
    ++ Batch.link p.chains p.host p.guest .insert
  creates : (Batch.create p.chains).map Command.stage = List.replicate 3 .create
  links : (Batch.link p.chains p.host p.guest .insert).map Command.stage
    = List.replicate 4 .link
  length_eq : blocks.length = forwards.length
  block_eq : ∀ k f, forwards[k]? = some f → blocks[k]? = some (p.block f k)
  /-- The rules of a block go to the chains in this order. -/
  sites : ∀ k (b : Batch), blocks[k]? = some b → b.map Command.site =
    [(.populate k, .append, p.chains.ingress.table, p.chains.ingress.name),
     (.populate k, .append, p.chains.egress.table, p.chains.egress.name),
     (.populate k, .append, p.chains.egress.table, p.chains.egress.name),
     (.populate k, .append, p.chains.forward.table, p.chains.forward.name)]

namespace Batch.Plan

theorem blocksFrom_eq_flatMap (p : Plan) (number : Nat) (fs : List Forward) :
    p.blocksFrom number fs = (fs.zipIdx number).flatMap fun x => p.block x.1 x.2 := by
  induction fs generalizing number with
  | nil => rfl
  | cons f fs ih => rw [blocksFrom, List.zipIdx_cons, List.flatMap_cons, ih]

def blocks (p : Plan) : List Batch := p.forwards.zipIdx.map fun x => p.block x.1 x.2

/-- **A start makes a block of each forward**, in their order. -/
theorem startLayout (p : Plan) : StartLayout p p.forwards p.start p.blocks := by
  unfold blocks
  constructor
  case parts =>
    rw [← List.flatMap_def, ← blocksFrom_eq_flatMap]
    rfl
  case creates => rfl
  case links => rfl
  case length_eq => simp
  case block_eq =>
    intro k f hf
    simp [hf]
  case sites =>
    intro k b hb
    rw [List.getElem?_map, List.getElem?_zipIdx, Nat.zero_add, Option.map_map] at hb
    obtain ⟨f, -, rfl⟩ := Option.map_eq_some_iff.1 hb
    rfl

end Batch.Plan

namespace Declaration

theorem usableRanges_eq (d : Declaration) : d.usableRanges = d.withoutDefects.portRanges := by
  apply List.filter_congr
  intro r _
  unfold PortRange.isUsable
  cases r.defect <;> rfl

theorem forwards_eq (d : Declaration) :
    d.forwards = d.portMap.map .ofMapping ++ d.withoutDefects.portRanges.map .ofRange := by
  unfold forwards
  rw [usableRanges_eq]

theorem withoutDefects_idem (d : Declaration) : d.withoutDefects.withoutDefects = d.withoutDefects := by
  simp [withoutDefects]

theorem forwards_withoutDefects (d : Declaration) : d.withoutDefects.forwards = d.forwards := by
  rw [forwards_eq, forwards_eq, withoutDefects_idem]
  rfl

theorem plan_withoutDefects (d : Declaration) : d.withoutDefects.plan = d.plan := by
  unfold plan
  rw [forwards_withoutDefects]
  rfl

theorem compile_withoutDefects (d : Declaration) (a : Action) :
    d.withoutDefects.compile a = d.compile a := by
  cases a with
  | start | stopped | reconnect => simp only [compile, plan_withoutDefects]
  | _ => rfl

end Declaration

/-- **A defective range leaves no trace**: whatever is compiled is compiled as if it were not
    there, and a start makes one block of four rules for each mapping and then for each range
    without a defect, numbered in this order. -/
theorem defective_ranges_leave_no_trace (d : Declaration) :
    (∀ a, d.compile a = d.withoutDefects.compile a) ∧
      ∀ batch, d.compile .start = .ok batch →
        ∃ p blocks, d.plan = .ok p ∧
          StartLayout p (d.portMap.map .ofMapping ++ d.withoutDefects.portRanges.map .ofRange)
            batch blocks := by
  constructor
  · intro a
    exact (d.compile_withoutDefects a).symm
  · intro batch h
    obtain ⟨p, hplan, rfl⟩ := Declaration.of_compile_eq_ok rfl h
    obtain ⟨host, guest, -, -, hp⟩ := Declaration.of_plan_eq_ok hplan
    refine ⟨p, p.blocks, hplan, ?_⟩
    have hforwards : p.forwards
        = d.portMap.map .ofMapping ++ d.withoutDefects.portRanges.map .ofRange := by
      rw [hp]
      exact d.forwards_eq
    rw [← hforwards]
    exact p.startLayout

/-- Two mappings, and a usable range between two defective ones. -/
def Declaration.partlyDefective : Declaration where
  vmName := "spark"
  portMap := [⟨1100, 3000, .tcp⟩, ⟨1200, 4000, .udp⟩]
  portRanges := [⟨20, 10, 30, 40, .tcp⟩, ⟨5000, 5010, 6000, 6010, .tcp⟩, ⟨0, 1, 2, 3, .udp⟩]
  hostIp := some ⟨192, 168, 1, 194⟩
  privateIp := some ⟨192, 168, 122, 101⟩

theorem defective_ranges_leave_no_trace_spark :
    ∃ batch, Declaration.partlyDefective.compile .start = .ok batch ∧
      ∃ p blocks, Declaration.partlyDefective.plan = .ok p ∧ blocks.length = 3 ∧
        StartLayout p (Declaration.partlyDefective.portMap.map .ofMapping
          ++ Declaration.partlyDefective.withoutDefects.portRanges.map .ofRange) batch blocks := by
  have haddr : Declaration.partlyDefective.Addressed "spark" ⟨192, 168, 1, 194⟩
      ⟨192, 168, 122, 101⟩ := ⟨rfl, rfl, rfl⟩
  have hcompile := Declaration.compile_of_plan (haddr.plan_eq Chains.ofGuest_spark) .start
  refine ⟨_, hcompile, ?_⟩
  obtain ⟨p, blocks, hplan, hlayout⟩ :=
    (defective_ranges_leave_no_trace Declaration.partlyDefective).2 _ hcompile
  refine ⟨p, blocks, hplan, ?_, hlayout⟩
  rw [hlayout.length_eq]
  rfl

end GuestPorts
