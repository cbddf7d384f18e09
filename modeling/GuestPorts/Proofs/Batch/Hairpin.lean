/-
  GuestPorts/Proofs/Batch/Hairpin.lean
  ====================================
  **What becomes of the packets that a guest sends to itself.**

  A client of a guest may be the guest: its packet goes out to the host's address, is sent
  back by the ingress chain, and comes to the egress chain with the guest at both ends.  There
  each forward has two rules for it.  The first one gives what the guest sends the address of
  the host; the second one masquerades what the guest sends to itself.  Whatever the second
  rule matches, the first one matches too and stands in front, so it is the first one that
  decides (`verdict_flatMap_of_weaker`), for every packet and whatever else is forwarded:
  the rule that masquerades is never reached (`hairpin_masqueraded_iff`).
-/
import GuestPorts.Proofs.Batch.Meaning

namespace GuestPorts

/-! ### Rules in pairs -/

theorem verdict_cons (takes : String → String → Bool) (r : PacketRule) (rules : List PacketRule)
    (x : Packet) :
    verdict takes (r :: rules) x
      = if r.criteria.Matches takes x then some r.target else verdict takes rules x := by
  unfold verdict
  rw [List.find?_cons]
  by_cases h : r.criteria.Matches takes x
  · simp [h]
  · simp [h]

/-- A rule right behind one that asks for less decides nothing. -/
theorem verdict_flatMap_of_weaker {α : Type} {takes : String → String → Bool}
    {front behind : α → PacketRule} {xs : List α} {x : Packet}
    (h : ∀ a ∈ xs, (behind a).criteria.Matches takes x → (front a).criteria.Matches takes x) :
    verdict takes (xs.flatMap fun a => [front a, behind a]) x = verdict takes (xs.map front) x := by
  induction xs with
  | nil => rfl
  | cons a rest ih =>
    have hrest := ih fun b hb => h b (List.mem_cons_of_mem a hb)
    rw [List.flatMap_cons, List.map_cons, List.cons_append, List.cons_append, List.nil_append,
      verdict_cons, verdict_cons, verdict_cons, hrest]
    by_cases hfront : (front a).criteria.Matches takes x
    · rw [if_pos hfront, if_pos hfront]
    · have hbehind : ¬(behind a).criteria.Matches takes x :=
        fun hmatches => hfront (h a List.mem_cons_self hmatches)
      rw [if_neg hfront, if_neg hfront, if_neg hbehind]

/-! ### The egress chain -/

namespace Batch.Plan

variable (p : Plan) (f : Forward) (stage : Stage)

def sourceReading : PacketRule where
  criteria := { protocol := f.protocol, source := p.guest, ports := f.guest }
  target := .rewriteSource p.host

def hairpinReading : PacketRule where
  criteria :=
    { protocol := f.protocol, source := p.guest, destination := p.guest, ports := f.guest }
  target := .masquerade

section Readings

attribute [local simp] Chain.rule PacketRule.ofArgs? Draft.read Draft.accept Draft.once Draft.finish

theorem ofArgs?_sourceRule :
    PacketRule.ofArgs? (p.sourceRule f stage).args = some (p.sourceReading f) := by
  simp [sourceRule, sourceReading]

theorem ofArgs?_hairpinRule :
    PacketRule.ofArgs? (p.hairpinRule f stage).args = some (p.hairpinReading f) := by
  simp [hairpinRule, hairpinReading]

end Readings

variable {p f}

theorem mapM_ofArgs?_egress (hp : p.chains.Proper) :
    (p.start.appended .nat p.chains.egress.name).mapM PacketRule.ofArgs?
      = some (p.forwards.flatMap fun f => [p.sourceReading f, p.hairpinReading f]) := by
  have hrules := appended_start hp .egress
  refine (congrArg _ hrules).trans (mapM_flatMap_eq_some ?_)
  intro f _
  rw [argsFor, List.mapM_cons, List.mapM_cons, ofArgs?_sourceRule, ofArgs?_hairpinRule]
  rfl

variable {takes : String → String → Bool} {x : Packet}

theorem matches_sourceReading : (p.sourceReading f).criteria.Matches takes x ↔
    x.source = p.guest ∧ f.protocol.number = x.protocol ∧ f.guest.covers x.port := by
  refine (Criteria.matches_iff rfl rfl).trans (and_congr_left fun _ => ?_)
  simp [sourceReading]

theorem matches_hairpinReading : (p.hairpinReading f).criteria.Matches takes x ↔
    (x.source = p.guest ∧ x.destination = p.guest) ∧
      f.protocol.number = x.protocol ∧ f.guest.covers x.port := by
  refine (Criteria.matches_iff rfl rfl).trans (and_congr_left fun _ => ?_)
  simp [hairpinReading]

/-- What a forward masquerades, it gives the address of the host first. -/
theorem matches_source_of_hairpin (h : (p.hairpinReading f).criteria.Matches takes x) :
    (p.sourceReading f).criteria.Matches takes x := by
  obtain ⟨⟨hsource, -⟩, hforward⟩ := matches_hairpinReading.1 h
  exact matches_sourceReading.2 ⟨hsource, hforward⟩

end Batch.Plan

/-! ### Packets of a guest to itself -/

namespace Declaration

open Batch.Plan

/-- A packet of a guest to itself, for a port that is forwarded to it. -/
def Hairpin (d : Declaration) (guest : Address) (x : Packet) : Prop :=
  x.source = guest ∧ x.destination = guest ∧ d.Takes .guest x.protocol x.port

variable {d : Declaration} {cs : Chains} {host guest : Address} {x : Packet}
variable {takes : String → String → Bool}

/-- Every entry that rules are made from has a port on the guest's side. -/
theorem exists_covers_of_mem_forwards {f : Forward} (hf : f ∈ d.forwards) :
    ∃ port, f.guest.covers port := by
  rcases mem_forwards.1 hf with ⟨m, -, rfl⟩ | ⟨r, -, husable, rfl⟩
  · exact ⟨m.vmPort, rfl⟩
  · obtain ⟨-, hle, -⟩ := r.isUsable_iff.1 husable
    exact ⟨r.vmStart, UInt16.le_refl _, hle⟩

theorem exists_hairpin_iff (d : Declaration) (guest : Address) :
    (∃ x, d.Hairpin guest x) ↔ ¬(d.portMap = [] ∧ d.usableRanges = []) := by
  have hforwards : d.forwards = [] ↔ d.portMap = [] ∧ d.usableRanges = [] := by
    simp [forwards]
  rw [← hforwards]
  constructor
  · rintro ⟨x, -, -, htakes⟩ hnil
    obtain ⟨f, hf, -⟩ := takes_iff.1 htakes
    rw [hnil] at hf
    cases hf
  · intro hne
    obtain ⟨f, hf⟩ := List.exists_mem_of_ne_nil _ hne
    obtain ⟨port, hport⟩ := exists_covers_of_mem_forwards hf
    exact ⟨⟨f.protocol.number, guest, guest, port, ""⟩, rfl, rfl, takes_iff.2 ⟨f, hf, rfl, hport⟩⟩

/-- The rules of the egress chain, in their order. -/
def egressRules (d : Declaration) (cs : Chains) (host guest : Address) : List PacketRule :=
  d.forwards.flatMap fun f =>
    [(d.planFor cs host guest).sourceReading f, (d.planFor cs host guest).hairpinReading f]

/-- The egress chain gives the address of the host to what the guest sends to a port that is
    forwarded to it, and does nothing else. -/
theorem verdict_egressRules {t : Target} :
    verdict takes (d.egressRules cs host guest) x = some t ↔
      (x.source = guest ∧ d.Takes .guest x.protocol x.port) ∧ t = .rewriteSource host := by
  have hsource : verdict takes (d.egressRules cs host guest) x
      = verdict takes (d.forwards.map (d.planFor cs host guest).sourceReading) x :=
    verdict_flatMap_of_weaker fun f _ => matches_source_of_hairpin
  rw [hsource, takes_iff, verdict_map_eq_some_iff (.rewriteSource host) fun f _ => rfl]
  refine and_congr_left fun _ => ?_
  constructor
  · rintro ⟨f, hf, hmatches⟩
    obtain ⟨hguest, hforward⟩ := matches_sourceReading.1 hmatches
    exact ⟨hguest, f, hf, hforward⟩
  · rintro ⟨hguest, f, hf, hforward⟩
    exact ⟨f, hf, matches_sourceReading.2 ⟨hguest, hforward⟩⟩

/-- A rule that masquerades is there for just the packets of the guest to itself. -/
theorem exists_masquerade_iff :
    (∃ r ∈ d.egressRules cs host guest, r.criteria.Matches takes x ∧ r.target = .masquerade) ↔
      d.Hairpin guest x := by
  unfold Hairpin
  rw [takes_iff]
  constructor
  · rintro ⟨r, hr, hmatches, htarget⟩
    obtain ⟨f, hf, hrule⟩ := List.mem_flatMap.1 hr
    rcases List.mem_pair.1 hrule with rfl | rfl
    · cases htarget
    · obtain ⟨⟨hsource, hdestination⟩, hforward⟩ := matches_hairpinReading.1 hmatches
      exact ⟨hsource, hdestination, f, hf, hforward⟩
  · rintro ⟨hsource, hdestination, f, hf, hforward⟩
    refine ⟨_, List.mem_flatMap.2 ⟨f, hf, List.mem_pair.2 (.inr rfl)⟩, ?_, rfl⟩
    exact matches_hairpinReading.2 ⟨⟨hsource, hdestination⟩, hforward⟩

theorem mapM_ofArgs?_egressRules (hcs : Chains.ofGuest d.vmName = .ok cs) :
    ((d.planFor cs host guest).start.appended .nat cs.egress.name).mapM PacketRule.ofArgs?
      = some (d.egressRules cs host guest) := by
  have hp : (d.planFor cs host guest).chains.Proper := Chains.proper_of_ofGuest hcs
  exact mapM_ofArgs?_egress hp

end Declaration

/-- **No packet of a guest to itself is masqueraded**, though a rule for that is there for each
    of them: all are given the address of the host, unless nothing is forwarded at all. -/
theorem hairpin_masqueraded_iff {d : Declaration} {vmName : String} {cs : Chains}
    {host guest : Address} (hcs : Chains.ofGuest vmName = .ok cs)
    (hd : d.Addressed vmName host guest) :
    ∃ batch egress, d.compile .start = .ok batch ∧
      (batch.appended .nat cs.egress.name).mapM PacketRule.ofArgs? = some egress ∧
      ∀ takes : String → String → Bool,
        (∀ x t, verdict takes egress x = some t ↔
          (x.source = guest ∧ d.Takes .guest x.protocol x.port) ∧ t = .rewriteSource host) ∧
        (∀ x, d.Hairpin guest x ↔
          ∃ r ∈ egress, r.criteria.Matches takes x ∧ r.target = .masquerade) ∧
        ((∀ x, d.Hairpin guest x → verdict takes egress x = some .masquerade) ↔
          d.portMap = [] ∧ d.usableRanges = []) := by
  refine ⟨_, d.egressRules cs host guest, Declaration.compile_of_plan (hd.plan_eq hcs) .start,
    Declaration.mapM_ofArgs?_egressRules (hd.vmName_eq ▸ hcs), ?_⟩
  intro takes
  refine ⟨fun x t => Declaration.verdict_egressRules,
    fun x => Declaration.exists_masquerade_iff.symm, ?_⟩
  have hnever : ∀ x, verdict takes (d.egressRules cs host guest) x ≠ some .masquerade := by
    intro x hx
    obtain ⟨-, htarget⟩ := Declaration.verdict_egressRules.1 hx
    cases htarget
  rw [← not_iff_not, ← d.exists_hairpin_iff guest]
  constructor
  · intro h
    by_contra hnone
    exact h fun x hx => absurd ⟨x, hx⟩ hnone
  · rintro ⟨x, hx⟩ hall
    exact hnever x (hall x hx)

/-- A port that a mapping of either protocol and a range forward. -/
def Declaration.entwined : Declaration where
  vmName := "spark"
  portMap := [⟨1100, 3000, .udp⟩, ⟨1100, 3000, .tcp⟩]
  portRanges := [⟨2995, 3005, 4000, 4010, .tcp⟩]
  hostIp := some ⟨192, 168, 1, 194⟩
  privateIp := some ⟨192, 168, 122, 101⟩

def Packet.toSelf (port : Port) : Packet where
  protocol := 6
  source := ⟨192, 168, 122, 101⟩
  destination := ⟨192, 168, 122, 101⟩
  port := port
  outInterface := "virbr0"

/-- Two rules that masquerade match, and the packet goes out with the address of the host. -/
theorem hairpin_masqueraded_entwined :
    Chains.ofGuest "spark" = .ok (Chains.named "spark") ∧
      Declaration.entwined.Addressed "spark" ⟨192, 168, 1, 194⟩ ⟨192, 168, 122, 101⟩ ∧
      ∃ batch egress, Declaration.entwined.compile .start = .ok batch ∧
        (batch.appended .nat (Chains.named "spark").egress.name).mapM PacketRule.ofArgs?
          = some egress ∧
        (∃ r ∈ egress, r.criteria.Matches (· == ·) (.toSelf 3000) ∧ r.target = .masquerade) ∧
        verdict (· == ·) egress (.toSelf 3000) = some (.rewriteSource ⟨192, 168, 1, 194⟩) := by
  have haddr : Declaration.entwined.Addressed "spark" ⟨192, 168, 1, 194⟩ ⟨192, 168, 122, 101⟩ :=
    ⟨rfl, rfl, rfl⟩
  obtain ⟨batch, egress, hbatch, hegress, hrules⟩ :=
    hairpin_masqueraded_iff Chains.ofGuest_spark haddr
  obtain ⟨hverdict, hmasquerade, -⟩ := hrules (· == ·)
  have htakes : Declaration.entwined.Takes .guest 6 3000 :=
    .inl ⟨⟨1100, 3000, .tcp⟩, by simp [Declaration.entwined], rfl, rfl⟩
  exact ⟨Chains.ofGuest_spark, haddr, batch, egress, hbatch, hegress,
    (hmasquerade _).1 ⟨rfl, rfl, htakes⟩, (hverdict _ _).2 ⟨⟨rfl, htakes⟩, rfl⟩⟩

/-- **A packet of a guest to itself that is not masqueraded.** -/
theorem hairpin_leaves_with_host_address :
    let d := Declaration.spark ⟨192, 168, 1, 194⟩
    Declaration.Hairpin d ⟨192, 168, 122, 101⟩ (.toSelf 3000) ∧
      ∃ batch egress, d.compile .start = .ok batch ∧
        (batch.appended .nat (Chains.named "spark").egress.name).mapM PacketRule.ofArgs?
          = some egress ∧
        verdict (· == ·) egress (.toSelf 3000) = some (.rewriteSource ⟨192, 168, 1, 194⟩) ∧
        verdict (· == ·) egress (.toSelf 3000) ≠ some .masquerade := by
  intro d
  have haddr : d.Addressed "spark" ⟨192, 168, 1, 194⟩ ⟨192, 168, 122, 101⟩ := ⟨rfl, rfl, rfl⟩
  have htakes : d.Takes .guest 6 3000 :=
    .inl ⟨⟨1100, 3000, .tcp⟩, List.mem_singleton_self _, rfl, rfl⟩
  refine ⟨⟨rfl, rfl, htakes⟩, _, _,
    Declaration.compile_of_plan (haddr.plan_eq Chains.ofGuest_spark) .start,
    Declaration.mapM_ofArgs?_egressRules Chains.ofGuest_spark, ?_, ?_⟩
  · decide
  · decide

end GuestPorts
