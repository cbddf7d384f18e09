/-
  GuestPorts/Proofs/Batch/Meaning.lean
  ====================================
  **The rules of a start mean what the declaration says** (`compiled_rules_meaning`).

  What is compiled is text: ports are written in two ways, and some arguments are there only
  when a field is set.  So each rule is read back first (`Batch.Plan.ofArgs?_ingressRule`,
  `ofArgs?_acceptRule`), and then what a chain does to a packet is a search through the
  declaration's forwards, in the order of its mappings and then of its usable ranges.
-/
import GuestPorts.Proofs.Batch.Event
import GuestPorts.Proofs.Filter.Packet

namespace GuestPorts

/-! ### What a declaration says -/

inductive Side where
  | host
  | guest
  deriving DecidableEq, Repr

def Mapping.portOn (m : Mapping) : Side → Port
  | .host => m.hostPort
  | .guest => m.vmPort

/-- The first and the last port of a range. -/
def PortRange.boundsOn (r : PortRange) : Side → Port × Port
  | .host => (r.hostStart, r.hostEnd)
  | .guest => (r.vmStart, r.vmEnd)

def Forward.portsOn (f : Forward) : Side → Ports
  | .host => f.host
  | .guest => f.guest

namespace Declaration

/-- Some mapping or usable range has this port on this side. -/
def Takes (d : Declaration) (side : Side) (protocol : UInt8) (port : Port) : Prop :=
  (∃ m ∈ d.portMap, m.protocol.number = protocol ∧ m.portOn side = port) ∨
    ∃ r ∈ d.portRanges, r.isUsable = true ∧ r.protocol.number = protocol ∧
      (r.boundsOn side).1 ≤ port ∧ port ≤ (r.boundsOn side).2

/-- The guest's side of the first mapping for a port of the host or, if there is none, of the
    first usable range with the port in it. -/
def forwardedTo (d : Declaration) (protocol : UInt8) (port : Port) : Option Ports :=
  match d.portMap.find? fun m => m.protocol.number = protocol ∧ m.hostPort = port with
  | some m => some (.single m.vmPort)
  | none =>
    (d.portRanges.find? fun r => r.isUsable = true ∧ r.protocol.number = protocol ∧
      r.hostStart ≤ port ∧ port ≤ r.hostEnd).map fun r => .span r.vmStart r.vmEnd

/-- What the rules of a guest's ingress chain and of its forward chain have to do to packets,
    the guest being behind this address of the host. -/
structure Meaning (d : Declaration) (host guest : Address) (takes : String → String → Bool)
    (ingress forward : List PacketRule) : Prop where
  rewrites : ∀ p, (verdict takes ingress p).isSome ↔
    p.destination = host ∧ (∀ ip ∈ d.externalIp, p.source = ip) ∧ d.Takes .host p.protocol p.port
  target : ∀ p t, verdict takes ingress p = some t →
    ∃ ports, d.forwardedTo p.protocol p.port = some ports ∧ t = .rewriteDestination guest ports
  accepts : ∀ p, verdict takes forward p = some .accept ↔
    p.destination = guest ∧ d.Takes .guest p.protocol p.port ∧
      ∀ i ∈ d.interface, takes i p.outInterface = true
  passes : ∀ p ip ports, verdict takes ingress p = some (.rewriteDestination ip ports) →
    ∀ port, ports.covers port → ∀ out, (∀ i ∈ d.interface, takes i out = true) →
      verdict takes forward { p with destination := ip, port := port, outInterface := out }
        = some .accept

variable {d : Declaration} {protocol : UInt8} {port : Port}

theorem mem_forwards {f : Forward} :
    f ∈ d.forwards ↔ (∃ m ∈ d.portMap, .ofMapping m = f) ∨
      ∃ r ∈ d.portRanges, r.isUsable = true ∧ .ofRange r = f := by
  simp [forwards, usableRanges, and_assoc]

theorem covers_ofMapping (m : Mapping) (side : Side) :
    ((Forward.ofMapping m).portsOn side).covers port ↔ m.portOn side = port := by
  cases side <;> exact eq_comm

theorem covers_ofRange (r : PortRange) (side : Side) :
    ((Forward.ofRange r).portsOn side).covers port ↔
      (r.boundsOn side).1 ≤ port ∧ port ≤ (r.boundsOn side).2 := by
  cases side <;> rfl

theorem takes_iff {side : Side} : d.Takes side protocol port ↔
    ∃ f ∈ d.forwards, f.protocol.number = protocol ∧ (f.portsOn side).covers port := by
  constructor
  · rintro (⟨m, hm, hprotocol, hport⟩ | ⟨r, hr, husable, hprotocol, hport⟩)
    · exact ⟨.ofMapping m, mem_forwards.2 (.inl ⟨m, hm, rfl⟩), hprotocol,
        (covers_ofMapping m side).2 hport⟩
    · exact ⟨.ofRange r, mem_forwards.2 (.inr ⟨r, hr, husable, rfl⟩), hprotocol,
        (covers_ofRange r side).2 hport⟩
  · rintro ⟨f, hf, hprotocol, hport⟩
    rcases mem_forwards.1 hf with ⟨m, hm, rfl⟩ | ⟨r, hr, husable, rfl⟩
    · exact .inl ⟨m, hm, hprotocol, (covers_ofMapping m side).1 hport⟩
    · exact .inr ⟨r, hr, husable, hprotocol, (covers_ofRange r side).1 hport⟩

/-- Mappings stand before ranges among the forwards, so the first forward for a port is the
    first mapping for it if there is one. -/
theorem forwardedTo_eq (d : Declaration) (protocol : UInt8) (port : Port) :
    d.forwardedTo protocol port
      = (d.forwards.find? fun f => f.protocol.number = protocol ∧ f.host.covers port).map
          Forward.guest := by
  have hmapping : ∀ m : Mapping, decide ((Forward.ofMapping m).protocol.number = protocol ∧
      (Forward.ofMapping m).host.covers port)
        = decide (m.protocol.number = protocol ∧ m.hostPort = port) := by
    intro m
    simp only [decide_eq_decide]
    exact and_congr_right fun _ => covers_ofMapping m .host
  unfold forwardedTo forwards usableRanges
  rw [List.find?_append, List.find?_map, List.find?_map, List.find?_filter]
  simp only [Function.comp_def, hmapping]
  cases d.portMap.find? fun m => decide (m.protocol.number = protocol ∧ m.hostPort = port) with
  | some m => rfl
  | none =>
    simp only [Option.map_none, Option.none_or, Option.map_map, decide_eq_true_eq]
    rfl

end Declaration

/-! ### Reading the rules -/

/-- The arguments of the rules that a batch appends to a chain, in its order. -/
def Batch.appended (batch : Batch) (t : Table) (n : String) : List (List String) :=
  (batch.filter fun c => c.op = .append ∧ c.table = t ∧ c.chain = n).map Command.args

@[simp] theorem Batch.appended_append (b b' : Batch) (t : Table) (n : String) :
    appended (b ++ b') t n = b.appended t n ++ b'.appended t n := by
  simp [appended]

theorem Batch.appended_eq_nil {b : Batch} (h : ∀ c ∈ b, c.op ≠ .append) (t : Table) (n : String) :
    b.appended t n = [] := by
  unfold appended
  rw [List.map_eq_nil_iff, List.filter_eq_nil_iff]
  intro c hc
  simp [h c hc]

namespace Batch.Plan

variable (p : Plan) (f : Forward) (stage : Stage)

/-- The arguments of a forward's rules in the chain of a role.  They are the same at every
    stage. -/
def argsFor (r : Role) : List (List String) :=
  match r with
  | .ingress => [(p.ingressRule f .create).args]
  | .egress => [(p.sourceRule f .create).args, (p.hairpinRule f .create).args]
  | .forward => [(p.acceptRule f .create).args]

def ingressReading : PacketRule where
  criteria :=
    { protocol := f.protocol, source := p.source, destination := p.host, ports := f.host }
  target := .rewriteDestination p.guest f.guest

def acceptReading : PacketRule where
  criteria :=
    { protocol := f.protocol, destination := p.guest, ports := f.guest,
      outInterface := p.interface }
  target := .accept

section Readings

attribute [local simp] Chain.rule PacketRule.ofArgs? Draft.read Draft.accept Draft.once Draft.finish

theorem ofArgs?_ingressRule :
    PacketRule.ofArgs? (p.ingressRule f stage).args = some (p.ingressReading f) := by
  cases h : p.source with
  | none => simp [ingressRule, optional, h, ingressReading]
  | some ip => simp [ingressRule, optional, h, ingressReading]

theorem ofArgs?_acceptRule :
    PacketRule.ofArgs? (p.acceptRule f stage).args = some (p.acceptReading f) := by
  cases h : p.interface with
  | none => simp [acceptRule, optional, h, acceptReading]
  | some i => simp [acceptRule, optional, h, acceptReading]

end Readings

variable {p f}

/-- A rule is in the chain of its role and in no other. -/
theorem appended_rule_cons (hp : p.chains.Proper) (r r' : Role) (stage : Stage)
    (args : List String) (b : Batch) :
    appended ((p.chains.get r').rule stage args :: b) r.table (p.chains.get r).name
      = (if r' = r then [args] else []) ++ appended b r.table (p.chains.get r).name := by
  by_cases hr : r' = r
  · subst hr
    simp [appended, Chain.rule, hp.table_get]
  · have hne : (p.chains.get r').name ≠ (p.chains.get r).name := fun he => hr (hp.name_inj he)
    simp [appended, Chain.rule, hne, hr]

theorem appended_block (hp : p.chains.Proper) (r : Role) (n : Nat) :
    (p.block f n).appended r.table (p.chains.get r).name = p.argsFor f r := by
  have hblock : p.block f n =
      [(p.chains.get .ingress).rule (.populate n) (p.ingressRule f .create).args,
        (p.chains.get .egress).rule (.populate n) (p.sourceRule f .create).args,
        (p.chains.get .egress).rule (.populate n) (p.hairpinRule f .create).args,
        (p.chains.get .forward).rule (.populate n) (p.acceptRule f .create).args] := rfl
  rw [hblock, appended_rule_cons hp, appended_rule_cons hp, appended_rule_cons hp,
    appended_rule_cons hp]
  cases r <;> rfl

theorem appended_blocksFrom (hp : p.chains.Proper) (r : Role) (n : Nat) (fs : List Forward) :
    (p.blocksFrom n fs).appended r.table (p.chains.get r).name
      = fs.flatMap fun f => p.argsFor f r := by
  induction fs generalizing n with
  | nil => rfl
  | cons f rest ih => rw [blocksFrom, appended_append, appended_block hp, ih, List.flatMap_cons]

/-- **The rules of a start, chain by chain**: each forward adds its own. -/
theorem appended_start (hp : p.chains.Proper) (r : Role) :
    p.start.appended r.table (p.chains.get r).name = p.forwards.flatMap fun f => p.argsFor f r := by
  have hcreate : ∀ c ∈ create p.chains, c.op ≠ .append := by
    simp [create, Chain.command]
  have hlink : ∀ c ∈ link p.chains p.host p.guest .insert, c.op ≠ .append := by
    intro c hc
    obtain ⟨j, -, rfl⟩ := List.mem_map.1 hc
    simp
  unfold start populate
  rw [appended_append, appended_append, appended_eq_nil hcreate, appended_eq_nil hlink,
    appended_blocksFrom hp]
  simp

theorem mapM_ofArgs?_ingress (hp : p.chains.Proper) :
    (p.start.appended .nat p.chains.ingress.name).mapM PacketRule.ofArgs?
      = some (p.forwards.map p.ingressReading) := by
  have hrules := appended_start hp .ingress
  simp only [argsFor, ← List.map_eq_flatMap] at hrules
  exact (congrArg _ hrules).trans (mapM_map_eq_some fun f _ => p.ofArgs?_ingressRule f .create)

theorem mapM_ofArgs?_forward (hp : p.chains.Proper) :
    (p.start.appended .filter p.chains.forward.name).mapM PacketRule.ofArgs?
      = some (p.forwards.map p.acceptReading) := by
  have hrules := appended_start hp .forward
  simp only [argsFor, ← List.map_eq_flatMap] at hrules
  exact (congrArg _ hrules).trans (mapM_map_eq_some fun f _ => p.ofArgs?_acceptRule f .create)

/-! ### What the rules do -/

variable {takes : String → String → Bool} {x : Packet}

theorem matches_ingressReading : (p.ingressReading f).criteria.Matches takes x ↔
    (x.destination = p.host ∧ ∀ ip ∈ p.source, x.source = ip) ∧
      f.protocol.number = x.protocol ∧ f.host.covers x.port := by
  refine (Criteria.matches_iff rfl rfl).trans (and_congr_left fun _ => ?_)
  simp [ingressReading, and_comm]

theorem matches_acceptReading : (p.acceptReading f).criteria.Matches takes x ↔
    (x.destination = p.guest ∧ ∀ i ∈ p.interface, takes i x.outInterface = true) ∧
      f.protocol.number = x.protocol ∧ f.guest.covers x.port := by
  refine (Criteria.matches_iff rfl rfl).trans (and_congr_left fun _ => ?_)
  simp [acceptReading]

end Batch.Plan

theorem verdict_map {α : Type} (takes : String → String → Bool) (g : α → PacketRule) (xs : List α)
    (x : Packet) :
    verdict takes (xs.map g) x
      = (xs.find? fun a => (g a).criteria.Matches takes x).map fun a => (g a).target := by
  simp [verdict, List.find?_map, Function.comp_def]

/-- A verdict comes from a rule that matches. -/
theorem exists_of_verdict_map {α : Type} {takes : String → String → Bool} {g : α → PacketRule}
    {xs : List α} {x : Packet} {t : Target} (h : verdict takes (xs.map g) x = some t) :
    ∃ a ∈ xs, (g a).criteria.Matches takes x ∧ (g a).target = t := by
  rw [verdict_map] at h
  obtain ⟨a, hfind, ht⟩ := Option.map_eq_some_iff.1 h
  have hmatches := List.find?_some hfind
  rw [decide_eq_true_eq] at hmatches
  exact ⟨a, List.mem_of_find?_eq_some hfind, hmatches, ht⟩

/-- Where all rules have one target, it does not matter which of them matches first. -/
theorem verdict_map_eq_some_iff {α : Type} {takes : String → String → Bool} {g : α → PacketRule}
    {xs : List α} {x : Packet} {t : Target} (target : Target)
    (h : ∀ a ∈ xs, (g a).target = target) :
    verdict takes (xs.map g) x = some t ↔
      (∃ a ∈ xs, (g a).criteria.Matches takes x) ∧ t = target := by
  constructor
  · intro ht
    obtain ⟨a, ha, hmatches, rfl⟩ := exists_of_verdict_map ht
    exact ⟨⟨a, ha, hmatches⟩, h a ha⟩
  · rintro ⟨⟨a, ha, hmatches⟩, rfl⟩
    rw [verdict_map]
    cases hfind : xs.find? fun a => (g a).criteria.Matches takes x with
    | some b => exact congrArg some (h b (List.mem_of_find?_eq_some hfind))
    | none =>
      have hnone := List.find?_eq_none.1 hfind a ha
      rw [decide_eq_true_eq] at hnone
      exact absurd hmatches hnone

namespace Declaration

open Batch.Plan

/-- For a packet that comes to the host from where it may come from, the ingress chain looks
    the port up in the declaration. -/
theorem verdict_ingress (d : Declaration) (cs : Chains) (host guest : Address)
    (takes : String → String → Bool) {x : Packet}
    (hx : x.destination = host ∧ ∀ ip ∈ d.externalIp, x.source = ip) :
    verdict takes (d.forwards.map (d.planFor cs host guest).ingressReading) x
      = (d.forwardedTo x.protocol x.port).map (.rewriteDestination guest) := by
  have hmatches : ∀ f,
      decide (((d.planFor cs host guest).ingressReading f).criteria.Matches takes x)
        = decide (f.protocol.number = x.protocol ∧ f.host.covers x.port) := by
    intro f
    rw [decide_eq_decide]
    exact matches_ingressReading.trans (and_iff_right hx)
  rw [verdict_map, forwardedTo_eq, Option.map_map]
  simp only [hmatches]
  rfl

theorem verdict_accept_iff (d : Declaration) (cs : Chains) (host guest : Address)
    (takes : String → String → Bool) (x : Packet) :
    verdict takes (d.forwards.map (d.planFor cs host guest).acceptReading) x = some .accept ↔
      x.destination = guest ∧ d.Takes .guest x.protocol x.port ∧
        ∀ i ∈ d.interface, takes i x.outInterface = true := by
  rw [takes_iff, verdict_map_eq_some_iff .accept fun f _ => rfl]
  constructor
  · rintro ⟨⟨f, hf, hmatches⟩, -⟩
    obtain ⟨⟨hdestination, hinterface⟩, hforward⟩ := matches_acceptReading.1 hmatches
    exact ⟨hdestination, ⟨f, hf, hforward⟩, hinterface⟩
  · rintro ⟨hdestination, ⟨f, hf, hforward⟩, hinterface⟩
    exact ⟨⟨f, hf, matches_acceptReading.2 ⟨⟨hdestination, hinterface⟩, hforward⟩⟩, rfl⟩

theorem meaning_planFor (d : Declaration) (cs : Chains) (host guest : Address)
    (takes : String → String → Bool) :
    d.Meaning host guest takes (d.forwards.map (d.planFor cs host guest).ingressReading)
      (d.forwards.map (d.planFor cs host guest).acceptReading) where
  rewrites := by
    intro x
    rw [takes_iff, verdict_map, Option.isSome_map, List.find?_isSome]
    simp only [decide_eq_true_eq]
    constructor
    · rintro ⟨f, hf, hmatches⟩
      obtain ⟨⟨hdestination, hsource⟩, hforward⟩ := matches_ingressReading.1 hmatches
      exact ⟨hdestination, hsource, f, hf, hforward⟩
    · rintro ⟨hdestination, hsource, f, hf, hforward⟩
      exact ⟨f, hf, matches_ingressReading.2 ⟨⟨hdestination, hsource⟩, hforward⟩⟩
  target := by
    intro x t ht
    obtain ⟨f, -, hmatches, -⟩ := exists_of_verdict_map ht
    rw [d.verdict_ingress cs host guest takes (matches_ingressReading.1 hmatches).1] at ht
    obtain ⟨ports, hports, rfl⟩ := Option.map_eq_some_iff.1 ht
    exact ⟨ports, hports, rfl⟩
  accepts := d.verdict_accept_iff cs host guest takes
  passes := by
    intro x ip ports hx port hport out hout
    obtain ⟨f, hf, hmatches, htarget⟩ := exists_of_verdict_map hx
    obtain ⟨-, hprotocol, -⟩ := matches_ingressReading.1 hmatches
    cases htarget
    exact (d.verdict_accept_iff cs host guest takes _).2
      ⟨rfl, takes_iff.2 ⟨f, hf, hprotocol, hport⟩, hout⟩

end Declaration

/-- **The rules of a start mean what the declaration says.** -/
theorem compiled_rules_meaning {d : Declaration} {vmName : String} {cs : Chains}
    {host guest : Address} (hcs : Chains.ofGuest vmName = .ok cs)
    (hd : d.Addressed vmName host guest) :
    ∃ batch ingress forward, d.compile .start = .ok batch ∧
      (batch.appended .nat cs.ingress.name).mapM PacketRule.ofArgs? = some ingress ∧
      (batch.appended .filter cs.forward.name).mapM PacketRule.ofArgs? = some forward ∧
      ∀ takes, d.Meaning host guest takes ingress forward := by
  have hp : (d.planFor cs host guest).chains.Proper := Chains.proper_of_ofGuest hcs
  exact ⟨_, _, _, Declaration.compile_of_plan (hd.plan_eq hcs) .start,
    Batch.Plan.mapM_ofArgs?_ingress hp, Batch.Plan.mapM_ofArgs?_forward hp,
    Declaration.meaning_planFor d cs host guest⟩

/-- A mapping and a range for one port of the host, and a range in front that is defective. -/
def Declaration.overlapping : Declaration where
  vmName := "spark"
  portMap := [⟨1100, 3000, .tcp⟩]
  portRanges := [⟨5000, 5009, 0, 9, .tcp⟩, ⟨4000, 4010, 1095, 1105, .tcp⟩]
  hostIp := some ⟨192, 168, 1, 194⟩
  privateIp := some ⟨192, 168, 122, 101⟩
  externalIp := some ⟨203, 0, 113, 7⟩
  interface := some "virbr0"

def Packet.toHost (port : Port) : Packet where
  protocol := 6
  source := ⟨203, 0, 113, 7⟩
  destination := ⟨192, 168, 1, 194⟩
  port := port
  outInterface := ""

/-- The mapping comes before the range. -/
theorem compiled_rules_meaning_overlapping :
    Chains.ofGuest "spark" = .ok (Chains.named "spark") ∧
      Declaration.overlapping.Addressed "spark" ⟨192, 168, 1, 194⟩ ⟨192, 168, 122, 101⟩ ∧
      ∃ batch ingress, Declaration.overlapping.compile .start = .ok batch ∧
        (batch.appended .nat (Chains.named "spark").ingress.name).mapM PacketRule.ofArgs?
          = some ingress ∧
        verdict (· == ·) ingress (.toHost 1100)
          = some (.rewriteDestination ⟨192, 168, 122, 101⟩ (.single 3000)) := by
  have haddr : Declaration.overlapping.Addressed "spark" ⟨192, 168, 1, 194⟩ ⟨192, 168, 122, 101⟩ :=
    ⟨rfl, rfl, rfl⟩
  obtain ⟨batch, ingress, forward, hbatch, hingress, -, hmeaning⟩ :=
    compiled_rules_meaning Chains.ofGuest_spark haddr
  refine ⟨Chains.ofGuest_spark, haddr, batch, ingress, hbatch, hingress, ?_⟩
  have htakes : Declaration.overlapping.Takes .host 6 1100 :=
    .inl ⟨⟨1100, 3000, .tcp⟩, List.mem_singleton_self _, rfl, rfl⟩
  have hsome := ((hmeaning (· == ·)).rewrites (.toHost 1100)).2
    ⟨rfl, fun ip hip => Option.some_inj.1 hip, htakes⟩
  obtain ⟨t, ht⟩ := Option.isSome_iff_exists.1 hsome
  obtain ⟨ports, hports, rfl⟩ := (hmeaning (· == ·)).target _ t ht
  have hsingle : Declaration.overlapping.forwardedTo 6 1100 = some (.single 3000) := by decide
  obtain rfl : ports = .single 3000 := Option.some_inj.1 (hports.symm.trans hsingle)
  exact ht

end GuestPorts
