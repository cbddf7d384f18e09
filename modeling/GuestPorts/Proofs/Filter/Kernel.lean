/-
  GuestPorts/Proofs/Filter/Kernel.lean
  ====================================
  **The kernel's side of a command**: tables of named chains, each a list of rules, and
  what the packet filter does to them when one command is run.

  The filter program is no part of this library.  What is known of it is its documented
  behaviour, and `Kernel.apply` says it as a function: a command either changes the kernel
  in one place, or fails and changes nothing.  Theorems about batches are stated over any
  runner that behaves so (`Runner.Drives`), with failures for no reason of the command's
  own allowed where the theorem says so.
-/
import GuestPorts.Process.FilterRunner
import Mathlib.Data.Finmap

namespace GuestPorts

/-! ### Rules -/

/-- A rule as the kernel holds it: what it was made from, and where a matching packet
    goes.  Two rules are identical when both are the same. -/
structure Rule where
  args : List String
  target : Option String
  deriving DecidableEq, Repr

namespace Rule

/-- Where the arguments of a command say that a packet goes.  In the rules of batches
    options and their values alternate, so a value that happens to read `-j` is no option. -/
def targetOf : List String → Option String
  | option :: value :: rest => if option = "-j" then some value else targetOf rest
  | _ => none

def ofArgs (args : List String) : Rule := ⟨args, targetOf args⟩

/-- The targets that are no chains of the user's. -/
def extensions : List String :=
  ["ACCEPT", "DROP", "QUEUE", "RETURN", "DNAT", "SNAT", "MASQUERADE", "REDIRECT", "NETMAP",
   "REJECT", "LOG"]

/-- A rule that jumps to no chain of the user's. -/
def IsPlain (x : Rule) : Prop := ∃ word ∈ extensions, x.target = some word

end Rule

def Command.rule (c : Command) : Rule := .ofArgs c.args

def Table.builtins : Table → List String
  | .nat => ["PREROUTING", "INPUT", "OUTPUT", "POSTROUTING"]
  | .filter => ["INPUT", "FORWARD", "OUTPUT"]

/-! ### Kernels -/

/-- What the packet filter holds: the rules of every chain.  The built-in chains are
    always there. -/
structure Kernel where
  chains : Finmap fun _ : Table × String => List Rule
  builtin_mem : ∀ t, ∀ n ∈ t.builtins, (t, n) ∈ chains

namespace Kernel

def rules (k : Kernel) (t : Table) (n : String) : Option (List Rule) := k.chains.lookup (t, n)

/-- A kernel is nothing but the rules of its chains. -/
theorem ext_rules {k l : Kernel} (h : ∀ t n, k.rules t n = l.rules t n) : k = l := by
  have hchains : k.chains = l.chains := Finmap.ext_lookup fun x => h x.1 x.2
  cases k
  cases l
  cases hchains
  rfl

theorem exists_rules_of_builtin (k : Kernel) {t : Table} {n : String} (h : n ∈ t.builtins) :
    ∃ rs, k.rules t n = some rs :=
  Finmap.mem_iff.1 (k.builtin_mem t n h)

/-- The kernel with other rules in a chain, which is made if need be. -/
def put (k : Kernel) (t : Table) (n : String) (rs : List Rule) : Kernel where
  chains := k.chains.insert (t, n) rs
  builtin_mem := fun u m hm => Finmap.mem_insert.2 (.inr (k.builtin_mem u m hm))

def drop (k : Kernel) (t : Table) (n : String) (h : n ∉ t.builtins) : Kernel where
  chains := k.chains.erase (t, n)
  builtin_mem := fun u m hm => by
    refine Finmap.mem_erase.2 ⟨?_, k.builtin_mem u m hm⟩
    rintro ⟨⟩
    exact h hm

@[simp] theorem rules_put (k : Kernel) (t : Table) (n : String) (rs : List Rule)
    (u : Table) (m : String) :
    (k.put t n rs).rules u m = if (u, m) = (t, n) then some rs else k.rules u m := by
  unfold rules put
  split
  · next h => rw [h, Finmap.lookup_insert]
  · next h => rw [Finmap.lookup_insert_of_ne _ h]

@[simp] theorem rules_drop (k : Kernel) (t : Table) (n : String) (h : n ∉ t.builtins)
    (u : Table) (m : String) :
    (k.drop t n h).rules u m = if (u, m) = (t, n) then none else k.rules u m := by
  unfold rules drop
  split
  · next he => rw [he, Finmap.lookup_erase]
  · next he => rw [Finmap.lookup_erase_ne he]

def bare : Kernel where
  chains :=
    [(Table.nat, "PREROUTING"), (.nat, "INPUT"), (.nat, "OUTPUT"), (.nat, "POSTROUTING"),
     (.filter, "INPUT"), (.filter, "FORWARD"), (.filter, "OUTPUT")].foldl
      (fun m x => m.insert x []) ∅
  builtin_mem := fun t => by cases t <;> decide +kernel

def IsTarget (k : Kernel) (t : Table) (n : String) : Prop :=
  ∃ m rs, k.rules t m = some rs ∧ ∃ x ∈ rs, x.target = some n

/-- Whether a rule may stand in a table: its target is no chain of the user's, or is one
    that exists. -/
def Accepts (k : Kernel) (t : Table) (x : Rule) : Prop :=
  match x.target with
  | some n => n ∈ Rule.extensions ∨ n ∉ t.builtins ∧ (k.rules t n).isSome
  | none => True

theorem accepts_plain (k : Kernel) {t : Table} {x : Rule} (h : x.IsPlain) : k.Accepts t x := by
  obtain ⟨word, hword, hw⟩ := h
  unfold Accepts
  rw [hw]
  exact .inl hword

instance (k : Kernel) (t : Table) (n : String) : Decidable (k.IsTarget t n) :=
  decidable_of_iff
    (∃ p ∈ k.chains.keys, p.1 = t ∧ ∃ x ∈ (k.rules p.1 p.2).getD [], x.target = some n) <| by
    constructor
    · rintro ⟨⟨u, m⟩, hmem, rfl, x, hx, hn⟩
      obtain ⟨rs, hrs⟩ := Finmap.mem_iff.1 (Finmap.mem_keys.1 hmem)
      have hrules : k.rules u m = some rs := hrs
      rw [hrules] at hx
      exact ⟨m, rs, hrules, x, hx, hn⟩
    · rintro ⟨m, rs, hrs, x, hx, hn⟩
      refine ⟨(t, m), Finmap.mem_keys.2 (Finmap.mem_iff.2 ⟨rs, hrs⟩), rfl, x, ?_, hn⟩
      rw [hrs]
      exact hx

instance (k : Kernel) (t : Table) (x : Rule) : Decidable (k.Accepts t x) := by
  unfold Accepts
  split <;> infer_instance

/-- The kernel after a command, or nothing when the command fails:
    a chain is made once, takes rules whose target is there, loses the first rule that is
    identical, is emptied, and is deleted when it is empty and no rule jumps to it. -/
def apply (c : Command) (k : Kernel) : Option Kernel :=
  match c.op, k.rules c.table c.chain with
  | .newChain, none => some (k.put c.table c.chain [])
  | .append, some rs =>
    if k.Accepts c.table c.rule then some (k.put c.table c.chain (rs ++ [c.rule])) else none
  | .insert, some rs =>
    if k.Accepts c.table c.rule then some (k.put c.table c.chain (c.rule :: rs)) else none
  | .delete, some rs =>
    if c.rule ∈ rs then some (k.put c.table c.chain (rs.erase c.rule)) else none
  | .flush, some _ => some (k.put c.table c.chain [])
  | .deleteChain, some [] =>
    if h : c.chain ∈ c.table.builtins then none
    else if k.IsTarget c.table c.chain then none
    else some (k.drop c.table c.chain h)
  | _, _ => none

section Operations

variable {k : Kernel} {t : Table} {n : String} {rs : List Rule} (args : List String)
  (stage : Stage)

theorem apply_append (h : k.rules t n = some rs) :
    k.apply ⟨t, .append, n, args, stage⟩
      = if k.Accepts t (.ofArgs args) then some (k.put t n (rs ++ [.ofArgs args])) else none := by
  unfold apply
  simp only [h]
  rfl

theorem apply_insert (h : k.rules t n = some rs) :
    k.apply ⟨t, .insert, n, args, stage⟩
      = if k.Accepts t (.ofArgs args) then some (k.put t n (.ofArgs args :: rs)) else none := by
  unfold apply
  simp only [h]
  rfl

theorem apply_delete (h : k.rules t n = some rs) :
    k.apply ⟨t, .delete, n, args, stage⟩
      = if Rule.ofArgs args ∈ rs then some (k.put t n (rs.erase (.ofArgs args))) else none := by
  unfold apply
  simp only [h]
  rfl

end Operations

end Kernel

/-! ### Runners that drive a kernel -/

/-- A runner behaves as documented towards the kernel that its state shows: a command
    succeeds when it can, and a failure changes nothing.  At some commands, in some states,
    it may fail although it could succeed. -/
structure Runner.Drives {σ : Type} (runner : Runner σ) (kernel : σ → Kernel)
    (spurious : Command → σ → Prop) : Prop where
  done : ∀ c s k, ¬ spurious c s → (kernel s).apply c = some k →
    ∃ s', (runner.run c).result s = (.ok (), s') ∧ kernel s' = k
  failed : ∀ c s, spurious c s ∨ (kernel s).apply c = none →
    ∃ e s', (runner.run c).result s = (.error e, s') ∧ kernel s' = kernel s

/-- No command fails for no reason of its own. -/
def Runner.never {σ : Type} : Command → σ → Prop := fun _ _ => False

def Runner.within {σ τ : Type} (runner : Runner σ) (get : τ → σ) (set : σ → τ → τ) : Runner τ where
  program := runner.program
  run := fun c => Effect.within get set (runner.run c)

theorem Runner.Drives.within {σ τ : Type} {runner : Runner σ} {kernel : σ → Kernel}
    (hd : runner.Drives kernel Runner.never) {get : τ → σ} {set : σ → τ → τ}
    (hget : ∀ s t, get (set s t) = s) :
    (runner.within get set).Drives (fun t => kernel (get t)) Runner.never where
  done := fun c t k hnever hk => by
    obtain ⟨s', hrun, hs'⟩ := hd.done c (get t) k hnever hk
    refine ⟨set s' t, ?_, (congrArg kernel (hget s' t)).trans hs'⟩
    unfold Effect.result at *
    simp only [Runner.within, Effect.within, hrun]
  failed := fun c t h => by
    obtain ⟨e, s', hrun, hs'⟩ := hd.failed c (get t) h
    refine ⟨e, set s' t, ?_, (congrArg kernel (hget s' t)).trans hs'⟩
    unfold Effect.result at *
    simp only [Runner.within, Effect.within, hrun]

/-- A filter in memory that counts its commands; the ones with the given numbers fail. -/
def Kernel.runner (faults : Nat → Bool) : Runner (Kernel × Nat) where
  program := Command.defaultProgram
  run := fun c => Effect.ofFunction fun s =>
    match faults s.2, s.1.apply c with
    | false, some k => (.ok (), (k, s.2 + 1))
    | _, _ => (.error (.nonZeroExit (some 1) ""), (s.1, s.2 + 1))

theorem Kernel.drives_runner (faults : Nat → Bool) :
    (Kernel.runner faults).Drives Prod.fst fun _ s => faults s.2 = true where
  done := fun c s k hfault hk => by
    refine ⟨(k, s.2 + 1), ?_, rfl⟩
    simp only [Bool.not_eq_true] at hfault
    simp only [Kernel.runner, Effect.ofFunction, Effect.result, hfault, hk]
  failed := fun c s h => by
    refine ⟨.nonZeroExit (some 1) "", (s.1, s.2 + 1), ?_, rfl⟩
    rcases h with h | h
    · simp only [Kernel.runner, Effect.ofFunction, Effect.result, h]
    · simp only [Kernel.runner, Effect.ofFunction, Effect.result, h]
      cases faults s.2 <;> rfl

/-- The filter in memory whose commands fail only where they have to. -/
def Kernel.steadyRunner : Runner (Kernel × Nat) := Kernel.runner fun _ => false

theorem Kernel.drives_steadyRunner : Kernel.steadyRunner.Drives Prod.fst Runner.never where
  done := fun c s k _ hk => (drives_runner fun _ => false).done c s k Bool.false_ne_true hk
  failed := fun c s h => (drives_runner fun _ => false).failed c s (h.imp_left False.elim)

end GuestPorts
