/-
  GuestPorts/Proofs/Perimeter/Pairing.lean
  ========================================
  **A line of the managed block for each populate block of a start**
  (`lines_pair_with_blocks`).

  The two write down the same forwards for different programs: a line is cut into words by the
  program that restores rules, a command is a list of arguments already.  In both of them options
  and values alternate, so what they say is read off in one way (`Redirection.ofWords?`), the
  option of the target apart.
-/
import GuestPorts.Proofs.Batch.Blocks
import GuestPorts.Proofs.Batch.Layout
import GuestPorts.Proofs.Perimeter.Reach

namespace GuestPorts

/-! ### What a rule says, in its words -/

/-- The value of an option among words in which options and values alternate. -/
def optionValue? (option : String) : List String → Option String
  | o :: value :: rest => if o = option then some value else optionValue? option rest
  | _ => none

/-- Which traffic a rule takes, and where it sends it. -/
structure Redirection where
  protocol : String
  ports : String
  target : String
  deriving DecidableEq, Repr

/-- What the words of a rule say, the target being the value of this option. -/
def Redirection.ofWords? (targetOption : String) (ws : List String) : Option Redirection := do
  return { protocol := ← optionValue? "-p" ws
           ports := ← optionValue? "--dport" ws
           target := ← optionValue? targetOption ws }

def Forward.redirection (f : Forward) (guest : Address) : Redirection where
  protocol := f.protocol.word
  ports := f.host.asMatch
  target := guest.text ++ ":" ++ f.guest.asTarget

theorem Perimeter.ofWords?_line {vmName : String} (hname : Role.checkName vmName = .ok ())
    (guest : Address) (f : Forward) :
    Redirection.ofWords? "--to-destination" (words (ruleFor vmName guest f))
      = some (f.redirection guest) := by
  rw [words_ruleFor hname]
  simp [lineWords, Redirection.ofWords?, optionValue?, Forward.redirection]

namespace Batch

/-- The commands of one populate block. -/
def numbered (batch : Batch) (block : Nat) : Batch :=
  batch.filter fun c => c.stage = .populate block

theorem numbered_append (front back : Batch) (block : Nat) :
    numbered (front ++ back) block = front.numbered block ++ back.numbered block :=
  List.filter_append _ _

theorem numbered_eq_nil {batch : Batch} {block : Nat}
    (h : ∀ c ∈ batch, c.stage ≠ .populate block) : batch.numbered block = [] := by
  unfold numbered
  rw [List.filter_eq_nil_iff]
  intro c hc
  simpa using h c hc

namespace Plan

variable (p : Plan)

theorem ofWords?_ingressRule (f : Forward) (stage : Stage) :
    Redirection.ofWords? "--to" (p.ingressRule f stage).args = some (f.redirection p.guest) := by
  cases h : p.source <;>
    simp [ingressRule, Chain.rule, optional, h, Redirection.ofWords?, optionValue?,
      Forward.redirection]

/-- One rule of a block changes the destination. -/
theorem filter_block (f : Forward) (number : Nat) :
    (p.block f number).filter (fun c => optionValue? "-j" c.args = some "DNAT")
      = [p.ingressRule f (.populate number)] := by
  have hingress : optionValue? "-j" (p.ingressRule f (.populate number)).args = some "DNAT" := by
    cases h : p.source <;> simp [ingressRule, Chain.rule, optional, h, optionValue?]
  have haccept : optionValue? "-j" (p.acceptRule f (.populate number)).args = some "ACCEPT" := by
    cases h : p.interface <;> simp [acceptRule, Chain.rule, optional, h, optionValue?]
  simp [block, hingress, haccept, sourceRule, hairpinRule, Chain.rule, optionValue?]

theorem numbered_block (f : Forward) (number : Nat) :
    (p.block f number).numbered number = p.block f number := by
  unfold numbered
  rw [List.filter_eq_self]
  intro c hc
  simpa using p.stage_of_mem_block hc

/-- The blocks are numbered by the places of their forwards. -/
theorem numbered_blocksFrom (number k : Nat) (fs : List Forward) :
    (p.blocksFrom number fs).numbered (number + k)
      = (fs[k]?).elim [] fun f => p.block f (number + k) := by
  induction fs generalizing number k with
  | nil => rfl
  | cons f fs ih =>
    rw [blocksFrom, numbered_append]
    cases k with
    | zero =>
      have hrest : (p.blocksFrom (number + 1) fs).numbered number = [] := by
        apply numbered_eq_nil
        intro c hc hstage
        have hle := p.number_le_of_mem_blocksFrom hc hstage
        omega
      simp [numbered_block, hrest]
    | succ k =>
      have hfirst : (p.block f number).numbered (number + (k + 1)) = [] := by
        apply numbered_eq_nil
        intro c hc
        rw [p.stage_of_mem_block hc]
        simp
      have hnumber : number + (k + 1) = number + 1 + k := by omega
      rw [hfirst, hnumber, ih]
      simp

/-- **Only what fills the chains is numbered.** -/
theorem numbered_start (k : Nat) :
    p.start.numbered k = (p.forwards[k]?).elim [] fun f => p.block f k := by
  have hcreate : (create p.chains).numbered k = [] := by
    apply numbered_eq_nil
    intro c hc hstage
    have hphase := phase_of_mem_create hc
    rw [hstage] at hphase
    cases hphase
  have hlink : (link p.chains p.host p.guest .insert).numbered k = [] := by
    apply numbered_eq_nil
    intro c hc hstage
    have hphase := phase_of_mem_link hc
    rw [hstage] at hphase
    cases hphase
  have hpopulate := p.numbered_blocksFrom 0 k p.forwards
  rw [Nat.zero_add] at hpopulate
  rw [start, numbered_append, numbered_append, hcreate, hlink, populate, hpopulate]
  simp

/-- There is a block for each forward. -/
theorem exists_stage_eq_iff (k : Nat) :
    (∃ c ∈ p.start, c.stage = .populate k) ↔ k < p.forwards.length := by
  have hnumbered := p.numbered_start k
  constructor
  · rintro ⟨c, hc, hstage⟩
    have hmem : c ∈ p.start.numbered k := List.mem_filter.2 ⟨hc, by simp [hstage]⟩
    by_contra hout
    rw [hnumbered, List.getElem?_eq_none (Nat.le_of_not_lt hout)] at hmem
    cases hmem
  · intro hk
    rw [List.getElem?_eq_getElem hk] at hnumbered
    have hmem : p.ingressRule p.forwards[k] (.populate k) ∈ p.start.numbered k := by
      rw [hnumbered]
      exact List.mem_cons_self
    exact ⟨_, List.mem_of_mem_filter hmem, rfl⟩

end Plan

end Batch

namespace Perimeter

/-- **Lines and populate blocks pair up.**  There are as many lines as blocks, and the k-th line
    takes the same protocol and ports as the rule of block k that changes the destination, and
    sends them to the same target: those of the k-th forward. -/
theorem lines_pair_with_blocks {d : Declaration} {vmName : String} {cs : Chains}
    {host guest : Address} (hcs : Chains.ofGuest vmName = .ok cs)
    (hd : d.Addressed vmName host guest) :
    ∃ lines batch, rules d = .ok lines ∧ d.compile .start = .ok batch ∧
      (∀ k, (∃ c ∈ batch, c.stage = .populate k) ↔ k < lines.length) ∧
      ∀ k line, lines[k]? = some line → ∃ f c, d.forwards[k]? = some f ∧
        (batch.numbered k).filter (fun c => optionValue? "-j" c.args = some "DNAT") = [c] ∧
        Redirection.ofWords? "--to-destination" (words line) = some (f.redirection guest) ∧
        Redirection.ofWords? "--to" c.args = some (f.redirection guest) := by
  have hlines : rules d = .ok (d.forwards.map (ruleFor vmName guest)) := by
    unfold rules
    rw [hd.privateIp_eq, hd.vmName_eq]
  refine ⟨_, _, hlines, Declaration.compile_of_plan (hd.plan_eq hcs) .start, ?count, ?pairs⟩
  case count =>
    intro k
    rw [List.length_map]
    exact Batch.Plan.exists_stage_eq_iff (d.planFor cs host guest) k
  case pairs =>
    intro k line hline
    rw [List.getElem?_map] at hline
    obtain ⟨f, hf, rfl⟩ := Option.map_eq_some_iff.1 hline
    have hblock := Batch.Plan.numbered_start (d.planFor cs host guest) k
    rw [show (d.planFor cs host guest).forwards[k]? = some f from hf] at hblock
    refine ⟨f, (d.planFor cs host guest).ingressRule f (.populate k), hf, ?_,
      ofWords?_line (Chains.checkName_of_ofGuest hcs) guest f,
      Batch.Plan.ofWords?_ingressRule _ f _⟩
    exact (congrArg _ hblock).trans (Batch.Plan.filter_block _ f k)

/-- A usable range between two defective ones is the third forward, behind two mappings. -/
theorem lines_pair_with_blocks_range :
    Chains.ofGuest "spark" = .ok (Chains.named "spark") ∧
      Declaration.partlyDefective.Addressed "spark" ⟨192, 168, 1, 194⟩ ⟨192, 168, 122, 101⟩ ∧
      ∃ lines batch, rules Declaration.partlyDefective = .ok lines ∧ lines.length = 3 ∧
        Declaration.partlyDefective.compile .start = .ok batch ∧
        ∃ line c, lines[2]? = some line ∧ c ∈ batch.numbered 2 ∧
          Redirection.ofWords? "--to-destination" (words line)
            = some ⟨"tcp", "6000:6010", "192.168.122.101:5000-5010"⟩ ∧
          Redirection.ofWords? "--to" c.args
            = some ⟨"tcp", "6000:6010", "192.168.122.101:5000-5010"⟩ := by
  have haddr : Declaration.partlyDefective.Addressed "spark" ⟨192, 168, 1, 194⟩
      ⟨192, 168, 122, 101⟩ := ⟨rfl, rfl, rfl⟩
  obtain ⟨lines, batch, hlines, hbatch, -, hpairs⟩ :=
    lines_pair_with_blocks Chains.ofGuest_spark haddr
  have hthree : lines.length = 3 := by
    cases hlines
    rfl
  obtain ⟨f, c, hf, hblock, hline, hcommand⟩ :=
    hpairs 2 _ (List.getElem?_eq_getElem (hthree ▸ by decide))
  have hc : c ∈ [c] := List.mem_singleton_self c
  rw [← hblock] at hc
  have hredirection : f.redirection ⟨192, 168, 122, 101⟩
      = ⟨"tcp", "6000:6010", "192.168.122.101:5000-5010"⟩ := by
    cases hf
    decide +kernel
  rw [hredirection] at hline hcommand
  exact ⟨Chains.ofGuest_spark, haddr, lines, batch, hlines, hthree, hbatch, _, c,
    List.getElem?_eq_getElem _, List.mem_of_mem_filter hc, hline, hcommand⟩

end Perimeter

end GuestPorts
