/-
  GuestPorts/Proofs/Filter/Part.lean
  ==================================
  **One guest's part of a kernel that others work on too.**

  A kernel has a footprint as a guest's part when the guest's chains hold it and the jumps to
  them, read off every chain in their order, are the jumps of the footprint
  (`Footprint.PartOf`).  Nothing around it is fixed.  A command of the guest is decided by its
  part alone, down to the reason of a refusal (`PartOf.answer`, `PartOf.refusal_eq`): it changes
  one chain of the guest or one gate (`Footprint.Change`) and leaves everything else alone
  (`Kernel.Frame`), so the part of another guest stays what it was (`PartOf.of_frame`).
-/
import GuestPorts.Proofs.Filter.Footprint

namespace GuestPorts

/-! ### Why a command is refused -/

inductive Refusal where
  | chainExists
  | noChain
  | noTarget
  | noRule
  | notEmpty
  | builtin
  | referenced
  deriving DecidableEq, Repr

namespace Kernel

def refusal (c : Command) (k : Kernel) : Option Refusal :=
  match c.op, k.rules c.table c.chain with
  | .newChain, none => none
  | .newChain, some _ => some .chainExists
  | _, none => some .noChain
  | .append, some _ | .insert, some _ =>
    if k.Accepts c.table c.rule then none else some .noTarget
  | .delete, some rs => if c.rule ∈ rs then none else some .noRule
  | .flush, some _ => none
  | .deleteChain, some (_ :: _) => some .notEmpty
  | .deleteChain, some [] =>
    if c.chain ∈ c.table.builtins then some .builtin
    else if k.IsTarget c.table c.chain then some .referenced
    else none

/-- A command that fails has a reason to. -/
theorem exists_refusal_of_apply_eq_none {c : Command} {k : Kernel} (h : k.apply c = none) :
    ∃ why, k.refusal c = some why := by
  obtain ⟨t, op, n, args, stage⟩ := c
  unfold apply at h
  unfold refusal
  simp only at h ⊢
  cases hrs : k.rules t n with
  | none =>
    rw [hrs] at h
    cases op with
    | newChain => cases h
    | _ => exact ⟨.noChain, rfl⟩
  | some rs =>
    rw [hrs] at h
    cases op with
    | newChain => exact ⟨.chainExists, rfl⟩
    | append =>
      refine ⟨.noTarget, if_neg fun haccepts => ?_⟩
      simp only [if_pos haccepts] at h
      cases h
    | insert =>
      refine ⟨.noTarget, if_neg fun haccepts => ?_⟩
      simp only [if_pos haccepts] at h
      cases h
    | delete =>
      refine ⟨.noRule, if_neg fun hmem => ?_⟩
      simp only [if_pos hmem] at h
      cases h
    | flush => cases h
    | deleteChain =>
      cases rs with
      | cons x rest => exact ⟨.notEmpty, rfl⟩
      | nil =>
        by_cases hbuiltin : n ∈ t.builtins
        · exact ⟨.builtin, if_pos hbuiltin⟩
        · simp only [dif_neg hbuiltin] at h
          refine ⟨.referenced, (if_neg hbuiltin).trans (if_pos ?_)⟩
          by_contra htarget
          rw [if_neg htarget] at h
          cases h

end Kernel

/-- The error of a runner is a matter of the command and of the reason that it was refused
    for. -/
def Runner.Explains {σ : Type} (runner : Runner σ) (kernel : σ → Kernel)
    (complaint : Command → Refusal → RunnerError) : Prop :=
  ∀ c s e s' why, (kernel s).refusal c = some why → (runner.run c).result s = (.error e, s') →
    e = complaint c why

/-! ### A guest's part -/

/-- A change that a command of one guest makes: other chains than the guest's and the gates
    are what they were, at the gates only jumps to the guest's chains come and go, and what
    comes into the guest's chains jumps to no chain. -/
structure Kernel.Frame (cs : Chains) (k k' : Kernel) : Prop where
  own : ∀ (r : Role) (rs : List Rule), k'.rules r.table (cs.get r).name = some rs →
    ∀ x ∈ rs, x.IsPlain ∨ ∃ old, k.rules r.table (cs.get r).name = some old ∧ x ∈ old
  gate : ∀ g : Gate, (k'.rules g.table g.chain).map (List.filter fun x => !cs.owns g.table x)
    = (k.rules g.table g.chain).map (List.filter fun x => !cs.owns g.table x)
  rest : ∀ t n, (∀ r : Role, (t, n) ≠ (r.table, (cs.get r).name)) →
    (∀ g : Gate, (t, n) ≠ (g.table, g.chain)) → k'.rules t n = k.rules t n

theorem Kernel.Frame.refl (cs : Chains) (k : Kernel) : Frame cs k k where
  own := fun _ rs hrs _ hx => .inr ⟨rs, hrs, hx⟩
  gate := fun _ => rfl
  rest := fun _ _ _ _ => rfl

/-- A footprint is what the guest has in the kernel, whoever else has rules there. -/
structure Footprint.PartOf (cs : Chains) (f : Footprint) (k : Kernel) : Prop where
  own : ∀ r : Role, k.rules r.table (cs.get r).name = f.chains r
  gate : ∀ g : Gate, k.jumpsTo cs g.table g.chain = (f.jumps g).map (g.rule cs)
  rest : ∀ t n, (∀ g : Gate, (t, n) ≠ (g.table, g.chain)) → k.jumpsTo cs t n = []

/-- What a command of the guest does to its footprint and to the kernel: one of its chains holds
    other rules that jump to no chain or is gone, or a jump comes or goes at a gate. -/
inductive Footprint.Change (cs : Chains) (f : Footprint) (k : Kernel) : Footprint → Kernel → Prop
  | own (r : Role) {rs : Option (List Rule)} {k' : Kernel}
    (hk : ∀ t n, k'.rules t n = if (t, n) = (r.table, (cs.get r).name) then rs else k.rules t n)
    (hrs : ∀ xs, rs = some xs → ∀ x ∈ xs,
      x.IsPlain ∨ ∃ old, f.chains r = some old ∧ x ∈ old) : Change cs f k (f.setChain r rs) k'
  | link (g : Gate) (a : Address) {rs : List Rule} (hrs : k.rules g.table g.chain = some rs) :
    Change cs f k (f.setJumps g (a :: f.jumps g)) (k.put g.table g.chain (g.rule cs a :: rs))
  | unlink (g : Gate) {a : Address} (ha : a ∈ f.jumps g) {rs : List Rule}
    (hrs : k.rules g.table g.chain = some rs) :
    Change cs f k (f.setJumps g ((f.jumps g).erase a))
      (k.put g.table g.chain (rs.erase (g.rule cs a)))

theorem rel_imp {α β : Type} {R S : α → β → Prop} (h : ∀ a b, R a b → S a b) {x : Option α}
    {y : Option β} (hxy : Option.Rel R x y) : Option.Rel S x y := by
  cases hxy with
  | none => exact .none
  | some hab => exact .some (h _ _ hab)

namespace Footprint.PartOf

variable {cs cs' : Chains} {k k' : Kernel} {f : Footprint}

theorem of_clear (h : k.Clear cs) : PartOf cs .empty k where
  own := fun r => h.absent r
  gate := fun g => h.jumpsTo_eq_nil g.table g.chain
  rest := fun t n _ => h.jumpsTo_eq_nil t n

/-! ### Changes in one place -/

/-- A change of one of the guest's chains. -/
theorem change_own (hp : cs.Proper) (h : PartOf cs f k) {r : Role} {rs : Option (List Rule)}
    (hk : ∀ t n, k'.rules t n = if (t, n) = (r.table, (cs.get r).name) then rs else k.rules t n)
    (hrs : ∀ xs, rs = some xs → ∀ x ∈ xs, x.IsPlain ∨ ∃ old, f.chains r = some old ∧ x ∈ old) :
    PartOf cs (f.setChain r rs) k' ∧ k.Frame cs k' := by
  rw [← h.own r] at hrs
  have hown : ∀ r' : Role, k'.rules r'.table (cs.get r').name
      = if r' = r then rs else k.rules r'.table (cs.get r').name := by
    intro r'
    rw [hk]
    by_cases hr : r' = r
    · rw [if_pos (by rw [hr]), if_pos hr]
    · rw [if_neg (fun he => hr (hp.name_inj (Prod.mk.inj he).2)), if_neg hr]
  have hgate : ∀ g : Gate, k'.rules g.table g.chain = k.rules g.table g.chain := by
    intro g
    rw [hk, if_neg fun he => hp.name_ne_chain r g (Prod.mk.inj he).2.symm]
  refine ⟨⟨fun r' => ?_, fun g => ?_, fun t n hn => ?_⟩, ⟨fun r' xs hxs x hx => ?_, fun g => ?_,
    fun t n hn _ => ?_⟩⟩
  · rw [hown, chains_setChain, h.own]
  · unfold Kernel.jumpsTo
    rw [hgate]
    exact h.gate g
  · by_cases he : (t, n) = (r.table, (cs.get r).name)
    · obtain ⟨rfl, rfl⟩ := Prod.mk.inj he
      refine Kernel.jumpsTo_eq_nil hp (h.rest _ _ hn) fun xs hxs => hrs xs ?_
      rwa [hk, if_pos rfl] at hxs
    · unfold Kernel.jumpsTo
      rw [hk, if_neg he]
      exact h.rest t n hn
  · rw [hown] at hxs
    by_cases hr : r' = r
    · subst hr
      rw [if_pos rfl] at hxs
      exact hrs xs hxs x hx
    · rw [if_neg hr] at hxs
      exact .inr ⟨xs, hxs, hx⟩
  · rw [hgate]
  · rw [hk, if_neg (hn r)]

/-- A change of the jumps at one gate. -/
theorem change_gate (hp : cs.Proper) (h : PartOf cs f k) {g : Gate} {as : List Address}
    {rs rs' : List Rule} (hrs : k.rules g.table g.chain = some rs)
    (hk : ∀ t n, k'.rules t n = if (t, n) = (g.table, g.chain) then some rs' else k.rules t n)
    (hjumps : rs'.filter (cs.owns g.table) = as.map (g.rule cs))
    (hothers : rs'.filter (fun x => !cs.owns g.table x) = rs.filter fun x => !cs.owns g.table x) :
    PartOf cs (f.setJumps g as) k' ∧ k.Frame cs k' := by
  have hown : ∀ r : Role, k'.rules r.table (cs.get r).name = k.rules r.table (cs.get r).name := by
    intro r
    rw [hk, if_neg fun he => hp.name_ne_chain r g (Prod.mk.inj he).2]
  have hgate : ∀ g' : Gate, g' ≠ g → k'.rules g'.table g'.chain = k.rules g'.table g'.chain := by
    intro g' hg
    rw [hk, if_neg fun he => hg (Gate.chain_inj (Prod.mk.inj he).2)]
  have hg : k'.rules g.table g.chain = some rs' := by rw [hk, if_pos rfl]
  refine ⟨⟨fun r => ?_, fun g' => ?_, fun t n hn => ?_⟩, ⟨fun r xs hxs x hx => ?_, fun g' => ?_,
    fun t n _ hn => ?_⟩⟩
  · rw [hown, chains_setJumps, h.own]
  · unfold Kernel.jumpsTo
    rw [jumps_setJumps]
    by_cases he : g' = g
    · subst he
      rw [if_pos rfl, hg, Option.getD_some, hjumps]
    · rw [if_neg he, hgate g' he]
      exact h.gate g'
  · unfold Kernel.jumpsTo
    rw [hk, if_neg (hn g)]
    exact h.rest t n hn
  · rw [hown] at hxs
    exact .inr ⟨xs, hxs, hx⟩
  · by_cases he : g' = g
    · subst he
      rw [hg, hrs, Option.map_some, Option.map_some, hothers]
    · rw [hgate g' he]
  · rw [hk, if_neg (hn g)]

/-! ### The guest's commands -/

theorem isTarget_iff (hp : cs.Proper) (h : PartOf cs f k) (r : Role) :
    k.IsTarget r.table (cs.get r).name ↔ ¬ f.Unlinked r := by
  constructor
  · rintro ⟨n, rs, hrs, x, hx, htarget⟩ hunlinked
    have hmem : x ∈ k.jumpsTo cs r.table n := by
      unfold Kernel.jumpsTo
      rw [hrs]
      exact List.mem_filter.2 ⟨hx, Chains.owns_iff.2 ⟨r, rfl, htarget⟩⟩
    by_cases hgate : ∃ g : Gate, (r.table, n) = (g.table, g.chain)
    · obtain ⟨g, hg⟩ := hgate
      rw [(Prod.mk.inj hg).1, (Prod.mk.inj hg).2, h.gate g] at hmem
      obtain ⟨a, ha, rfl⟩ := List.mem_map.1 hmem
      rw [g.target_rule] at htarget
      rw [hunlinked g (hp.name_inj (Option.some.inj htarget))] at ha
      cases ha
    · rw [h.rest r.table n fun g he => hgate ⟨g, he⟩] at hmem
      cases hmem
  · intro hlinked
    simp only [Unlinked, not_forall] at hlinked
    obtain ⟨g, rfl, hjumps⟩ := hlinked
    obtain ⟨a, ha⟩ := List.exists_mem_of_ne_nil _ hjumps
    obtain ⟨rs, hrs⟩ := k.exists_rules_of_builtin g.chain_mem_builtins
    have hmem : g.rule cs a ∈ k.jumpsTo cs g.table g.chain := by
      rw [h.gate g]
      exact List.mem_map_of_mem ha
    unfold Kernel.jumpsTo at hmem
    rw [hrs] at hmem
    exact ⟨g.chain, rs, hrs, g.rule cs a, List.mem_of_mem_filter hmem, g.target_rule cs a⟩

theorem accepts_rule (hp : cs.Proper) (h : PartOf cs f k) (g : Gate) (a : Address) :
    k.Accepts g.table (g.rule cs a) ↔ (f.chains g.role).isSome := by
  rw [← h.own g.role]
  exact g.accepts_rule_iff hp a

theorem filter_gate (h : PartOf cs f k) (g : Gate) {rs : List Rule}
    (hrs : k.rules g.table g.chain = some rs) :
    rs.filter (cs.owns g.table) = (f.jumps g).map (g.rule cs) := by
  have hgate := h.gate g
  unfold Kernel.jumpsTo at hgate
  rwa [hrs, Option.getD_some] at hgate

theorem rule_mem_iff (h : PartOf cs f k) (g : Gate) (a : Address) {rs : List Rule}
    (hrs : k.rules g.table g.chain = some rs) : g.rule cs a ∈ rs ↔ a ∈ f.jumps g := by
  rw [← List.mem_map_of_injective (g.rule_inj cs), ← h.filter_gate g hrs, List.mem_filter]
  exact (and_iff_left (cs.owns_rule g a)).symm

/-- **What the kernel does to a move** is a matter of the guest's part of it: it refuses the
    command when the move is not possible, and changes as little as the footprint does. -/
theorem answer (hp : cs.Proper) (h : PartOf cs f k) {m : Move} (hm : m.IsPlain) (stage : Stage) :
    Option.Rel (Change cs f k) (f.move m) (k.apply (m.command cs stage)) := by
  cases m with
  | create r =>
    simp only [move, Kernel.apply, Move.command]
    rw [h.own r]
    cases f.chains r with
    | none => exact .some (.own r (k.rules_put _ _ _) (by simp))
    | some rs => exact .none
  | fill r args =>
    simp only [move]
    cases hc : f.chains r with
    | none =>
      simp only [Kernel.apply, Move.command]
      rw [h.own r, hc]
      exact .none
    | some rs =>
      have happly : k.apply ((Move.fill r args).command cs stage)
          = some (k.put r.table (cs.get r).name (rs ++ [.ofArgs args])) :=
        (Kernel.apply_append args stage ((h.own r).trans hc)).trans (if_pos (k.accepts_plain hm))
      rw [happly]
      refine .some (.own r (k.rules_put _ _ _) fun xs hxs x hx => ?_)
      cases hxs
      rcases List.mem_append.1 hx with hold | hnew
      · exact .inr ⟨rs, hc, hold⟩
      · rw [List.mem_singleton.1 hnew]
        exact .inl hm
  | flush r =>
    simp only [move, Kernel.apply, Move.command]
    rw [h.own r]
    cases f.chains r with
    | none => exact .none
    | some rs => exact .some (.own r (k.rules_put _ _ _) (by simp))
  | discard r =>
    simp only [move, Kernel.apply, Move.command]
    rw [h.own r]
    rcases f.chains r with _ | _ | ⟨x, rs⟩
    · exact .none
    · simp only [dif_neg (hp.notMem_builtins r r.table), true_and, h.isTarget_iff hp r]
      by_cases hu : f.Unlinked r
      · simp only [hu, not_true_eq_false, if_true, if_false]
        exact .some (.own r (k.rules_drop _ _ _) (by simp))
      · simp only [hu, not_false_eq_true, if_true, if_false]
        exact .none
    · exact .none
  | link g a =>
    obtain ⟨rs, hrs⟩ := k.exists_rules_of_builtin g.chain_mem_builtins
    have happly : k.apply ((Move.link g a).command cs stage)
        = if k.Accepts g.table (g.rule cs a)
          then some (k.put g.table g.chain (g.rule cs a :: rs)) else none :=
      Kernel.apply_insert (g.args cs a) stage hrs
    rw [happly]
    simp only [move, h.accepts_rule hp g a]
    cases f.chains g.role with
    | none => exact .none
    | some ys => exact .some (.link g a hrs)
  | unlink g a =>
    obtain ⟨rs, hrs⟩ := k.exists_rules_of_builtin g.chain_mem_builtins
    have happly : k.apply ((Move.unlink g a).command cs stage)
        = if g.rule cs a ∈ rs
          then some (k.put g.table g.chain (rs.erase (g.rule cs a))) else none :=
      Kernel.apply_delete (g.args cs a) stage hrs
    rw [happly]
    simp only [move, h.rule_mem_iff g a hrs]
    by_cases ha : a ∈ f.jumps g
    · rw [if_pos ha, if_pos ha]
      exact .some (.unlink g ha hrs)
    · rw [if_neg ha, if_neg ha]
      exact .none

theorem change (hp : cs.Proper) (h : PartOf cs f k) {f' : Footprint} (hc : Change cs f k f' k') :
    PartOf cs f' k' ∧ k.Frame cs k' := by
  cases hc with
  | own r hk hrs => exact h.change_own hp hk hrs
  | @link g a rs hrs =>
    have howns := cs.owns_rule g a
    refine h.change_gate hp hrs (k.rules_put _ _ _) ?_ ?_
    · rw [List.filter_cons_of_pos howns, h.filter_gate g hrs, List.map_cons]
    · rw [List.filter_cons_of_neg (by simp [howns])]
  | @unlink g a ha rs hrs =>
    refine h.change_gate hp hrs (k.rules_put _ _ _) ?_ ?_
    · rw [← List.erase_filter, h.filter_gate g hrs, List.map_erase (g.rule_inj cs)]
    · rw [← List.erase_filter, List.erase_of_not_mem]
      simp [cs.owns_rule g a]

/-- **A command of the guest does to its part what its move does to the footprint**, leaves
    everything else alone, and fails when the move is not possible. -/
theorem apply (hp : cs.Proper) (h : PartOf cs f k) {m : Move} (hm : m.IsPlain) (stage : Stage) :
    Option.Rel (fun f' k' => PartOf cs f' k' ∧ k.Frame cs k') (f.move m)
      (k.apply (m.command cs stage)) :=
  rel_imp (fun _ _ hc => h.change hp hc) (h.answer hp hm stage)

/-- Where two kernels have the same part of a guest, its commands are refused for the same
    reasons. -/
theorem refusal_eq (hp : cs.Proper) (h : PartOf cs f k) (h' : PartOf cs f k') {m : Move}
    (hm : m.IsPlain) (stage : Stage) :
    k.refusal (m.command cs stage) = k'.refusal (m.command cs stage) := by
  have hown : ∀ r : Role, k.rules r.table (cs.get r).name = k'.rules r.table (cs.get r).name :=
    fun r => (h.own r).trans (h'.own r).symm
  unfold Kernel.refusal
  cases m with
  | create r =>
    simp only [Move.command, hown r]
    cases k'.rules r.table (cs.get r).name <;> rfl
  | fill r args =>
    have haccepts : k.Accepts r.table (.ofArgs args) ↔ k'.Accepts r.table (.ofArgs args) :=
      iff_of_true (k.accepts_plain hm) (k'.accepts_plain hm)
    simp only [Move.command, Command.rule, hown r, haccepts]
    cases k'.rules r.table (cs.get r).name <;> rfl
  | flush r =>
    simp only [Move.command, hown r]
    cases k'.rules r.table (cs.get r).name <;> rfl
  | discard r =>
    simp only [Move.command, hown r, h.isTarget_iff hp r, h'.isTarget_iff hp r]
    cases k'.rules r.table (cs.get r).name <;> rfl
  | link g a =>
    obtain ⟨rs, hrs⟩ := k.exists_rules_of_builtin g.chain_mem_builtins
    obtain ⟨rs', hrs'⟩ := k'.exists_rules_of_builtin g.chain_mem_builtins
    have haccepts : k.Accepts g.table (g.rule cs a) ↔ k'.Accepts g.table (g.rule cs a) :=
      (h.accepts_rule hp g a).trans (h'.accepts_rule hp g a).symm
    simp only [Move.command, Command.rule, hrs, hrs']
    exact if_congr haccepts rfl rfl
  | unlink g a =>
    obtain ⟨rs, hrs⟩ := k.exists_rules_of_builtin g.chain_mem_builtins
    obtain ⟨rs', hrs'⟩ := k'.exists_rules_of_builtin g.chain_mem_builtins
    have hmem : g.rule cs a ∈ rs ↔ g.rule cs a ∈ rs' :=
      (h.rule_mem_iff g a hrs).trans (h'.rule_mem_iff g a hrs').symm
    simp only [Move.command, Command.rule, hrs, hrs']
    exact if_congr hmem rfl rfl

/-! ### The commands of others -/

/-- **What a command of another guest leaves alone includes the part of this one.** -/
theorem of_frame (hp : cs.Proper)
    (hapart : ∀ r r', (cs.get r).name ≠ (cs'.get r').name) (h : PartOf cs f k)
    (hframe : k.Frame cs' k') : PartOf cs f k' := by
  have hown : ∀ r : Role, k'.rules r.table (cs.get r).name = k.rules r.table (cs.get r).name :=
    fun r => hframe.rest _ _ (fun r' he => hapart r r' (Prod.mk.inj he).2)
      fun g he => hp.name_ne_chain r g (Prod.mk.inj he).2
  -- a jump of this guest is none of the other's, so it is among the rules that stay
  have hstays : ∀ t x, (cs.owns t x && !cs'.owns t x) = cs.owns t x := by
    intro t x
    cases howns : cs.owns t x with
    | false => rfl
    | true => rw [Chains.owns_eq_false_of_owns hapart howns]; rfl
  have hgate : ∀ g : Gate, k'.jumpsTo cs g.table g.chain = k.jumpsTo cs g.table g.chain := by
    intro g
    obtain ⟨rs, hrs⟩ := k.exists_rules_of_builtin g.chain_mem_builtins
    obtain ⟨rs', hrs'⟩ := k'.exists_rules_of_builtin g.chain_mem_builtins
    have hothers := hframe.gate g
    rw [hrs, hrs', Option.map_some, Option.map_some, Option.some.injEq] at hothers
    unfold Kernel.jumpsTo
    rw [hrs, hrs', Option.getD_some, Option.getD_some]
    have hsame := congrArg (List.filter (cs.owns g.table)) hothers
    rwa [List.filter_filter, List.filter_filter, funext (hstays g.table)] at hsame
  refine ⟨fun r => (hown r).trans (h.own r), fun g => (hgate g).trans (h.gate g), fun t n hn => ?_⟩
  by_cases hother : ∃ r : Role, (t, n) = (r.table, (cs'.get r).name)
  · obtain ⟨r, hr⟩ := hother
    obtain ⟨rfl, rfl⟩ := Prod.mk.inj hr
    exact Kernel.jumpsTo_eq_nil hp (h.rest _ _ hn) (hframe.own r)
  · have hsame := hframe.rest t n (fun r he => hother ⟨r, he⟩) hn
    unfold Kernel.jumpsTo
    rw [hsame]
    exact h.rest t n hn

end Footprint.PartOf

/-! ### The rules of nobody -/

/-- The rules of a chain that jump to neither of two guests. -/
def Kernel.rulesBeside (k : Kernel) (cs cs' : Chains) (t : Table) (n : String) :
    Option (List Rule) :=
  (k.rules t n).map (List.filter fun x => !cs.owns t x && !cs'.owns t x)

theorem Kernel.rulesBeside_comm (k : Kernel) (cs cs' : Chains) (t : Table) (n : String) :
    k.rulesBeside cs cs' t n = k.rulesBeside cs' cs t n := by
  unfold rulesBeside
  simp only [Bool.and_comm]

theorem Kernel.Frame.rulesBeside_eq {cs : Chains} {k k' : Kernel} (h : k.Frame cs k')
    (cs' : Chains) {t : Table} {n : String}
    (hn : ∀ r : Role, (t, n) ≠ (r.table, (cs.get r).name)) :
    k'.rulesBeside cs cs' t n = k.rulesBeside cs cs' t n := by
  unfold rulesBeside
  by_cases hgate : ∃ g : Gate, (t, n) = (g.table, g.chain)
  · obtain ⟨g, hg⟩ := hgate
    obtain ⟨rfl, rfl⟩ := Prod.mk.inj hg
    have hsame := congrArg (Option.map (List.filter fun x => !cs'.owns g.table x)) (h.gate g)
    simpa only [Option.map_map, Function.comp_def, List.filter_filter, Bool.and_comm] using hsame
  · rw [h.rest t n hn fun g he => hgate ⟨g, he⟩]

/-- In a kernel without the guests every rule is nobody's. -/
theorem Kernel.Clear.rulesBeside_eq {cs cs' : Chains} {k : Kernel} (h : k.Clear cs)
    (h' : k.Clear cs') (t : Table) (n : String) : k.rulesBeside cs cs' t n = k.rules t n := by
  unfold rulesBeside
  cases hrs : k.rules t n with
  | none => rfl
  | some rs =>
    rw [Option.map_some, List.filter_eq_self.2]
    intro x hx
    rw [h.owns_eq_false hrs hx, h'.owns_eq_false hrs hx]
    rfl

end GuestPorts
