/-
  GuestPorts/Proofs/Filter/Footprint.lean
  =======================================
  **What one guest leaves in the kernel**: its own chains, as far as they are there, and
  the jumps to them that stand in four built-in chains.

  A batch only ever touches these places, and each command of a batch is one of six moves on
  the footprint.  What the kernel does to a move depends on the guest's part of it and on
  nothing else (`Footprint.PartOf.apply`).  When the guest is the only one that works on the
  kernel, then the kernel is one without the guest with the footprint over it
  (`Footprint.Shows.apply`).  Everything about batches is proved on footprints from there.
-/
import GuestPorts.Batch.Compile
import GuestPorts.Proofs.Address
import GuestPorts.Proofs.Chain.Names

namespace GuestPorts

/-! ### Where traffic enters a guest's chains -/

/-- The built-in chains in which jumps to a guest's chains stand. -/
inductive Gate where
  | output
  | prerouting
  | postrouting
  | forward
  deriving DecidableEq, Repr

namespace Gate

def all : List Gate := [.output, .prerouting, .postrouting, .forward]

/-- What the chain is for that the gate leads to. -/
def role : Gate → Role
  | .output | .prerouting => .ingress
  | .postrouting => .egress
  | .forward => .forward

def chain : Gate → String
  | .output => "OUTPUT"
  | .prerouting => "PREROUTING"
  | .postrouting => "POSTROUTING"
  | .forward => "FORWARD"

def table (g : Gate) : Table := g.role.table

/-- What belongs to the side that a gate's jumps are matched by, the host's or the
    guest's. -/
def address {α : Type} (g : Gate) (host guest : α) : α :=
  match g with
  | .output | .prerouting => host
  | .postrouting | .forward => guest

def args (g : Gate) (cs : Chains) (a : Address) : List String :=
  match g with
  | .output | .prerouting => ["-d", a.text, "-j", cs.ingress.name]
  | .postrouting => ["-s", a.text, "-d", a.text, "-j", cs.egress.name]
  | .forward => ["-d", a.text, "-j", cs.forward.name]

def rule (g : Gate) (cs : Chains) (a : Address) : Rule := .ofArgs (g.args cs a)

theorem mem_all (g : Gate) : g ∈ all := by cases g <;> decide

theorem chain_mem_builtins (g : Gate) : g.chain ∈ g.table.builtins := by cases g <;> decide

theorem chain_inj {g g' : Gate} (h : g.chain = g'.chain) : g = g' := by
  cases g <;> cases g' <;> first | rfl | exact absurd h (by decide)

theorem target_rule (g : Gate) (cs : Chains) (a : Address) :
    (g.rule cs a).target = some (cs.get g.role).name := by
  cases g <;> simp [rule, args, Rule.ofArgs, Rule.targetOf, Chains.get, role]

theorem rule_inj (g : Gate) (cs : Chains) : Function.Injective (g.rule cs) := by
  intro a a' h
  apply Address.text_inj
  have hargs : g.args cs a = g.args cs a' := congrArg Rule.args h
  cases g with
  | output => exact (List.cons.inj (List.cons.inj hargs).2).1
  | prerouting => exact (List.cons.inj (List.cons.inj hargs).2).1
  | postrouting => exact (List.cons.inj (List.cons.inj hargs).2).1
  | forward => exact (List.cons.inj (List.cons.inj hargs).2).1

end Gate

theorem Chains.Proper.name_ne_chain {cs : Chains} (h : cs.Proper) (r : Role) (g : Gate) :
    (cs.get r).name ≠ g.chain :=
  fun he => h.notMem_builtins r g.table (he ▸ g.chain_mem_builtins)

/-- A jump of the guest may stand at its gate while the chain that it leads to is there. -/
theorem Gate.accepts_rule_iff (g : Gate) {cs : Chains} (hp : cs.Proper) {k : Kernel} (a : Address) :
    k.Accepts g.table (g.rule cs a) ↔ (k.rules g.role.table (cs.get g.role).name).isSome := by
  unfold Kernel.Accepts
  rw [g.target_rule cs a]
  simp only [hp.notMem_extensions, hp.notMem_builtins, false_or, not_false_eq_true, true_and]
  rfl

/-! ### Footprints and the moves on them -/

/-- The jumps of a guest at each gate, by their addresses, the latest first, and the rules
    of its chains that are there. -/
structure Footprint where
  jumps : Gate → List Address
  chains : Role → Option (List Rule)

namespace Footprint

def empty : Footprint where
  jumps := fun _ => []
  chains := fun _ => none

/-- The footprint with other rules in a chain, or without it. -/
def setChain (f : Footprint) (r : Role) (rs : Option (List Rule)) : Footprint :=
  { f with chains := Function.update f.chains r rs }

def setJumps (f : Footprint) (g : Gate) (as : List Address) : Footprint :=
  { f with jumps := Function.update f.jumps g as }

@[simp] theorem jumps_setChain (f : Footprint) (r : Role) (rs : Option (List Rule)) :
    (f.setChain r rs).jumps = f.jumps := rfl

@[simp] theorem chains_setJumps (f : Footprint) (g : Gate) (as : List Address) :
    (f.setJumps g as).chains = f.chains := rfl

@[simp] theorem chains_setChain (f : Footprint) (r r' : Role) (rs : Option (List Rule)) :
    (f.setChain r rs).chains r' = if r' = r then rs else f.chains r' := by
  simp [setChain, Function.update_apply]

@[simp] theorem jumps_setJumps (f : Footprint) (g g' : Gate) (as : List Address) :
    (f.setJumps g as).jumps g' = if g' = g then as else f.jumps g' := by
  simp [setJumps, Function.update_apply]

theorem ext {f f' : Footprint} (hj : ∀ g, f.jumps g = f'.jumps g)
    (hc : ∀ r, f.chains r = f'.chains r) : f = f' := by
  cases f
  cases f'
  congr
  · exact funext hj
  · exact funext hc

/-- No jump leads to the chain of this role. -/
def Unlinked (f : Footprint) (r : Role) : Prop := ∀ g : Gate, g.role = r → f.jumps g = []

instance (f : Footprint) (r : Role) : Decidable (f.Unlinked r) :=
  decidable_of_iff (∀ g ∈ Gate.all, g.role = r → f.jumps g = [])
    ⟨fun h g => h g g.mem_all, fun h g _ => h g⟩

end Footprint

/-- What a command of a batch does to the guest's part of the kernel. -/
inductive Move where
  | create (r : Role)
  | fill (r : Role) (args : List String)
  | flush (r : Role)
  | discard (r : Role)
  | link (g : Gate) (a : Address)
  | unlink (g : Gate) (a : Address)
  deriving DecidableEq, Repr

def Move.command (cs : Chains) (m : Move) (stage : Stage) : Command :=
  match m with
  | .create r =>
    { table := r.table, op := .newChain, chain := (cs.get r).name, args := [], stage }
  | .fill r args => { table := r.table, op := .append, chain := (cs.get r).name, args, stage }
  | .flush r => { table := r.table, op := .flush, chain := (cs.get r).name, args := [], stage }
  | .discard r =>
    { table := r.table, op := .deleteChain, chain := (cs.get r).name, args := [], stage }
  | .link g a => { table := g.table, op := .insert, chain := g.chain, args := g.args cs a, stage }
  | .unlink g a =>
    { table := g.table, op := .delete, chain := g.chain, args := g.args cs a, stage }

/-- Chains are only filled with rules that jump to no chain. -/
def Move.IsPlain : Move → Prop
  | .fill _ args => (Rule.ofArgs args).IsPlain
  | _ => True

/-- The footprint after a move, or nothing when the move is not possible. -/
def Footprint.move (f : Footprint) : Move → Option Footprint
  | .create r => if f.chains r = none then some (f.setChain r (some [])) else none
  | .fill r args => (f.chains r).map fun rs => f.setChain r (some (rs ++ [.ofArgs args]))
  | .flush r => (f.chains r).map fun _ => f.setChain r (some [])
  | .discard r =>
    if f.chains r = some [] ∧ f.Unlinked r then some (f.setChain r none) else none
  | .link g a => (f.chains g.role).map fun _ => f.setJumps g (a :: f.jumps g)
  | .unlink g a => if a ∈ f.jumps g then some (f.setJumps g ((f.jumps g).erase a)) else none

/-- The guest's chains are not there and nothing jumps to them. -/
structure Kernel.Clear (k : Kernel) (cs : Chains) : Prop where
  absent : ∀ r : Role, k.rules r.table (cs.get r).name = none
  unmentioned : ∀ r : Role, ¬ k.IsTarget r.table (cs.get r).name

/-! ### The jumps to a guest's chains -/

/-- Whether a rule in a table leads to a chain of the guest. -/
def Chains.owns (cs : Chains) (t : Table) (x : Rule) : Bool :=
  Role.all.any fun r => r.table = t ∧ x.target = some (cs.get r).name

theorem Chains.owns_iff {cs : Chains} {t : Table} {x : Rule} :
    cs.owns t x = true ↔ ∃ r : Role, r.table = t ∧ x.target = some (cs.get r).name := by
  unfold owns
  rw [List.any_eq_true]
  constructor
  · rintro ⟨r, -, h⟩
    exact ⟨r, by simpa using h⟩
  · rintro ⟨r, h⟩
    exact ⟨r, r.mem_all, by simpa using h⟩

theorem Chains.owns_rule (cs : Chains) (g : Gate) (a : Address) :
    cs.owns g.table (g.rule cs a) = true :=
  owns_iff.2 ⟨g.role, rfl, g.target_rule cs a⟩

theorem Chains.filter_owns_jumps (cs : Chains) (g : Gate) (as : List Address) :
    (as.map (g.rule cs)).filter (cs.owns g.table) = as.map (g.rule cs) := by
  rw [List.filter_eq_self]
  intro x hx
  obtain ⟨a, -, rfl⟩ := List.mem_map.1 hx
  exact cs.owns_rule g a

theorem Chains.Proper.owns_eq_false_of_isPlain {cs : Chains} (hp : cs.Proper) (t : Table)
    {x : Rule} (h : x.IsPlain) : cs.owns t x = false := by
  rw [Bool.eq_false_iff, ne_eq, Chains.owns_iff]
  rintro ⟨r, -, hr⟩
  obtain ⟨word, hword, hw⟩ := h
  rw [hw] at hr
  exact hp.notMem_extensions r (Option.some.inj hr ▸ hword)

/-- No rule leads to chains of two guests whose names are all different. -/
theorem Chains.owns_eq_false_of_owns {cs cs' : Chains} (h : ∀ r r', (cs.get r).name ≠ (cs'.get r').name)
    {t : Table} {x : Rule} (hx : cs.owns t x = true) : cs'.owns t x = false := by
  rw [Bool.eq_false_iff, ne_eq, owns_iff]
  rintro ⟨r', -, hr'⟩
  obtain ⟨r, -, hr⟩ := owns_iff.1 hx
  exact h r r' (Option.some.inj (hr.symm.trans hr'))

/-- The jumps to a guest's chains that stand in a chain, in their order. -/
def Kernel.jumpsTo (k : Kernel) (cs : Chains) (t : Table) (n : String) : List Rule :=
  ((k.rules t n).getD []).filter (cs.owns t)

theorem Kernel.Clear.owns_eq_false {cs : Chains} {k : Kernel} (h : k.Clear cs) {t : Table}
    {n : String} {rs : List Rule} (hrs : k.rules t n = some rs) {x : Rule} (hx : x ∈ rs) :
    cs.owns t x = false := by
  rw [Bool.eq_false_iff, ne_eq, Chains.owns_iff]
  rintro ⟨r, rfl, htarget⟩
  exact h.unmentioned r ⟨n, rs, hrs, x, hx, htarget⟩

theorem Kernel.Clear.jumpsTo_eq_nil {cs : Chains} {k : Kernel} (h : k.Clear cs) (t : Table)
    (n : String) : k.jumpsTo cs t n = [] := by
  unfold jumpsTo
  rw [List.filter_eq_nil_iff]
  intro x hx
  cases hrs : k.rules t n with
  | none =>
    rw [hrs] at hx
    cases hx
  | some rs =>
    rw [hrs] at hx
    exact Bool.eq_false_iff.1 (h.owns_eq_false hrs hx)

/-- A chain without jumps to a guest's chains has none either when what came into it jumps to
    no chain. -/
theorem Kernel.jumpsTo_eq_nil {cs : Chains} (hp : cs.Proper) {k k' : Kernel} {t : Table}
    {n : String} (hnone : k.jumpsTo cs t n = [])
    (h : ∀ xs, k'.rules t n = some xs → ∀ x ∈ xs,
      x.IsPlain ∨ ∃ old, k.rules t n = some old ∧ x ∈ old) : k'.jumpsTo cs t n = [] := by
  unfold jumpsTo at hnone ⊢
  rw [List.filter_eq_nil_iff] at hnone ⊢
  intro x hx
  cases hrs : k'.rules t n with
  | none =>
    rw [hrs] at hx
    cases hx
  | some xs =>
    rw [hrs] at hx
    rcases h xs hrs x hx with hplain | ⟨old, hold, hmem⟩
    · exact Bool.eq_false_iff.1 (hp.owns_eq_false_of_isPlain t hplain)
    · rw [hold] at hnone
      exact hnone x hmem

end GuestPorts
