/-
  GuestPorts/Proofs/Batch/Linked.lean
  ===================================
  **Whose addresses the jumps are for** when a declaration changes between events.

  A stop only takes out jumps for the addresses that are declared by then.  So the state
  of a guest is not where it stands in its lifecycle but the addresses that its jumps were
  made for, at most one on each side (`Linked`); everything else in its footprint follows
  (`Linked.Matches`).  Each action does to them what `Linked.after` says, and a reconnect
  puts the declared rules in exactly when the jumps before it are for no other addresses
  (`Matches.reconnect_iff`).
-/
import GuestPorts.Proofs.Batch.Event

namespace GuestPorts

/-- The addresses that the jumps of a guest are for, on each side. -/
structure Linked where
  host : Option Address := none
  guest : Option Address := none
  deriving DecidableEq, Repr

namespace Linked

def unlink (l : Linked) (host guest : Address) : Linked where
  host := if l.host = some host then none else l.host
  guest := if l.guest = some guest then none else l.guest

theorem host_unlink_ne (l : Linked) (host guest : Address) :
    (l.unlink host guest).host ≠ some host := by
  unfold unlink
  split
  · nofun
  · assumption

/-- Jumps for these addresses are put in, unless there are jumps. -/
def link (l : Linked) (host guest : Address) : Linked :=
  if l = {} then { host := some host, guest := some guest } else l

/-- What an action does while these addresses are declared. -/
def after (l : Linked) (host guest : Address) : Action → Linked
  | .start => l.link host guest
  | .stopped => l.unlink host guest
  | .reconnect => (l.unlink host guest).link host guest
  | _ => l

/-- The jumps are for no other addresses than these. -/
def Fits (l : Linked) (host guest : Address) : Prop := l.unlink host guest = {}

instance (l : Linked) (host guest : Address) : Decidable (l.Fits host guest) :=
  inferInstanceAs (Decidable (_ = _))

theorem fits_iff {l : Linked} {host guest : Address} :
    l.Fits host guest ↔ (∀ a, l.host = some a → a = host) ∧ ∀ a, l.guest = some a → a = guest := by
  rcases l with ⟨_ | a, _ | b⟩ <;> simp [Fits, unlink]

theorem toList_erase (o : Option Address) (a : Address) :
    o.toList.erase a = (if o = some a then none else o).toList := by
  cases o with
  | none => rfl
  | some b =>
    by_cases hb : b = a
    · simp [hb]
    · simp [hb]

/-- A footprint as the actions leave it: jumps for these addresses, at most one at a gate
    and only to chains that are there, and no chains when there are no jumps. -/
structure Matches (l : Linked) (f : Footprint) : Prop where
  jumps : ∀ g : Gate, f.jumps g = (g.address l.host l.guest).toList
  linked : ∀ g, f.jumps g ≠ [] → (f.chains g.role).isSome
  gone : l = {} → ∀ r, f.chains r = none

namespace Matches

open Footprint

variable {l : Linked} {f : Footprint} {p : Batch.Plan}

theorem empty : Matches {} .empty where
  jumps := fun g => by cases g <;> rfl
  linked := fun _ h => absurd rfl h
  gone := fun _ _ => rfl

theorem eq_empty (h : Matches {} f) : f = .empty := by
  refine Footprint.ext (fun g => ?_) (h.gone rfl)
  rw [h.jumps g]
  cases g <;> rfl

theorem started (p : Batch.Plan) : Matches ⟨some p.host, some p.guest⟩ (started p) where
  jumps := fun g => by cases g <;> rfl
  linked := fun _ _ => rfl
  gone := fun h => by cases h

theorem exists_isSome (h : Matches l f) (hl : l ≠ {}) : ∃ r, (f.chains r).isSome := by
  rcases l with ⟨host | a, guest⟩
  · cases guest with
    | none => exact absurd rfl hl
    | some b =>
      refine ⟨.forward, h.linked .forward ?_⟩
      rw [h.jumps]
      exact List.cons_ne_nil _ _
  · refine ⟨.ingress, h.linked .output ?_⟩
    rw [h.jumps]
    exact List.cons_ne_nil _ _

theorem grown (h : Matches l f) (hl : l ≠ {}) {f' : Footprint} (hf : Grown f f') :
    Matches l f' where
  jumps := fun g => by rw [hf.jumps, h.jumps g]
  linked := fun g hg => by
    rw [hf.jumps] at hg
    exact hf.isSome (h.linked g hg)
  gone := fun he => absurd he hl

/-- A start puts in the jumps of its declaration, or finds jumps and ends. -/
theorem after_start (hp : p.chains.Proper) (h : Matches l f) :
    Matches (l.link p.host p.guest) (f.after p .start) := by
  unfold link
  by_cases hl : l = {}
  · subst hl
    rw [if_pos rfl, h.eq_empty, empty_after_start hp]
    exact .started p
  · rw [if_neg hl]
    obtain ⟨r, hr⟩ := h.exists_isSome hl
    exact h.grown hl (after_start_grown hr)

/-- A stop takes out the jumps of its declaration. -/
theorem after_stopped (h : Matches l f) :
    Matches (l.unlink p.host p.guest) (f.after p .stopped) := by
  rw [Footprint.after_stopped]
  have hjumps (g : Gate) : (f.jumps g).erase (g.address p.host p.guest)
      = (g.address (l.unlink p.host p.guest).host (l.unlink p.host p.guest).guest).toList := by
    rw [h.jumps g]
    cases g <;> exact toList_erase _ _
  refine ⟨hjumps, fun g hg => ?_, fun hl r => ?_⟩
  · have hnot : ¬ (f.unlink p.host p.guest).Unlinked g.role := fun hu => hg (hu g rfl)
    have hbefore : f.jumps g ≠ [] := by
      intro hn
      refine hg ?_
      show (f.jumps g).erase (g.address p.host p.guest) = []
      rw [hn]
      rfl
    obtain ⟨rs, hrs⟩ := Option.isSome_iff_exists.1 (h.linked g hbefore)
    have hchain : (f.stopped p.host p.guest).chains g.role = (f.chains g.role).map fun _ => [] :=
      if_neg hnot
    rw [hchain, hrs]
    rfl
  · have hempty : f.stopped p.host p.guest = .empty := by
      refine stopped_eq_empty fun g => ?_
      rw [hjumps g, hl]
      cases g <;> rfl
    rw [hempty]
    rfl

/-- **Each action does to the jumps what it does to their addresses.** -/
theorem after (hp : p.chains.Proper) (h : Matches l f) (a : Action) :
    Matches (l.after p.host p.guest a) (f.after p a) := by
  cases a with
  | start => exact h.after_start hp
  | stopped => exact h.after_stopped
  | reconnect =>
    have hstopped := h.after_stopped (p := p)
    rw [Footprint.after_stopped] at hstopped
    rw [Footprint.after_reconnect]
    exact hstopped.after_start hp
  | _ => exact h

/-- **A reconnect puts its declaration in exactly when the jumps before it fit**; otherwise
    a jump for another address is left, and its chain keeps the start from happening. -/
theorem reconnect_iff (hp : p.chains.Proper) (h : Matches l f) :
    f.after p .reconnect = Footprint.started p ↔ l.Fits p.host p.guest := by
  have hstopped := h.after_stopped (p := p)
  rw [Footprint.after_stopped] at hstopped
  rw [Footprint.after_reconnect]
  unfold Fits
  constructor
  · intro hstarted
    by_contra hne
    -- what the stop leaves is for other addresses, so what is started is not its own
    have hlink := hstopped.after_start hp
    rw [hstarted, link, if_neg hne] at hlink
    have hjumps : [p.host] = (l.unlink p.host p.guest).host.toList := hlink.jumps .output
    have hmem : p.host ∈ (l.unlink p.host p.guest).host.toList := hjumps ▸ List.mem_cons_self
    exact l.host_unlink_ne p.host p.guest (Option.mem_toList.1 hmem)
  · intro hfits
    rw [hfits] at hstopped
    rw [hstopped.eq_empty, empty_after_start hp]

end Matches

end Linked

end GuestPorts
