/-
  GuestPorts/Proofs/Registry/Members.lean
  =======================================
  **Objects are read by their names**: in which order the members stand, and which others stand
  between them, does not matter (`exists_foldMembers`).

  A reader keeps a slot for each field of its record (`Slot`).  Slots have names of their own and
  do not reach into one another (`Reads`), so each of them depends on the members under its own
  names only.  The induction is on the members: a slot is either still empty and its member is
  to come, or it holds what it should and no member of its own comes any more (`Slot.Waits`).
-/
import GuestPorts.Effect
import GuestPorts.Proofs.Json.Spacing
import GuestPorts.Registry.Json
import Mathlib.Data.List.Forall2
import Mathlib.Data.List.Pairwise
import Mathlib.Tactic.MkIffOfInductiveProp

namespace GuestPorts

open GuestPorts.Json

mutual
theorem Json.Doc.Printable.isWhole : ∀ {d : Doc}, d.Printable → d.isWhole = true
  | .null, _ | .bool _, _ | .number _, _ | .string _, _ => rfl
  | .array is, h => @Items.Printable.isWhole is h
  | .object ms, h => @Members.Printable.isWhole ms h

theorem Json.Items.Printable.isWhole : ∀ {is : Items}, is.Printable → is.isWhole = true
  | .closed, _ => rfl
  | .cons _ _, h => Bool.and_eq_true_iff.2 ⟨h.1.isWhole, Items.Printable.isWhole h.2⟩

theorem Json.Members.Printable.isWhole : ∀ {ms : Members}, ms.Printable → ms.isWhole = true
  | .closed, _ => rfl
  | .cons _ _ _, h => Bool.and_eq_true_iff.2 ⟨h.1.isWhole, Members.Printable.isWhole h.2⟩
end

/-! ### How a record may be written -/

/-- The members that stand under some names. -/
def among (names : List String) (members : List (String × Doc)) : List (String × Doc) :=
  members.filter fun m => m.1 ∈ names

theorem among_cons_of_mem {names : List String} {m : String × Doc} (h : m.1 ∈ names)
    (rest : List (String × Doc)) : among names (m :: rest) = m :: among names rest :=
  List.filter_cons_of_pos (by simpa using h)

theorem among_cons_of_notMem {names : List String} {m : String × Doc} (h : m.1 ∉ names)
    (rest : List (String × Doc)) : among names (m :: rest) = among names rest :=
  List.filter_cons_of_neg (by simpa using h)

/-- A field of a record: the names that it may have, whether it may be missing, and the documents
    that stand for its value. -/
structure Field where
  names : List String
  optional : Prop
  spells : Doc → Prop

/-- Among the members one stands for the field, under one of its names; or none does, if it may
    be missing. -/
def Field.In (members : List (String × Doc)) (f : Field) : Prop :=
  (among f.names members = [] ∧ f.optional) ∨ ∃ m, among f.names members = [m] ∧ f.spells m.2

/-- The order of the members does not matter to a field. -/
theorem Field.In.perm {f : Field} {members members' : List (String × Doc)} (h : f.In members)
    (hperm : members.Perm members') : f.In members' := by
  have hown : (among f.names members).Perm (among f.names members') := hperm.filter _
  rcases h with ⟨hnone, hoptional⟩ | ⟨m, hone, hspells⟩
  · rw [hnone] at hown
    exact .inl ⟨hown.nil_eq.symm, hoptional⟩
  · rw [hone] at hown
    exact .inr ⟨m, (List.singleton_perm.1 hown).symm, hspells⟩

/-- Nor do members under names of which it knows nothing. -/
theorem Field.In.cons {f : Field} {members : List (String × Doc)} (h : f.In members)
    {m : String × Doc} (hm : m.1 ∉ f.names) : f.In (m :: members) := by
  unfold Field.In
  rwa [among_cons_of_notMem hm]

/-- **An object stands for a record** when its members do, in whatever order; those under names
    of no field have any values. -/
def Written (fields : List Field) (d : Doc) : Prop :=
  ∃ members, d = objectDoc members ∧ (∀ f ∈ fields, f.In members) ∧
    ∀ m ∈ members, m.2.Printable

/-! ### How a record is read -/

/-- A field as the reader keeps it, and what it should be in the end. -/
structure Slot (σ : Type) where
  names : List String
  Value : Type
  get : σ → Option Value
  set : σ → Option Value → σ
  decode : Doc → Decoded Value
  good : Option Value → Prop

def membersDoc (members : List (String × Doc)) : Members :=
  .ofList (members.map fun m => (m.1.toList, m.2))

section Slots

variable {σ : Type}

namespace Slot

/-- Read a member into the slot, which must be empty. -/
def take (f : Slot σ) (s : σ) (d : Doc) : Decoded σ := do
  return f.set s (← fill (f.get s) (f.names.headD "") f.decode d)

/-- The slot is as it should be and none of its members is to come; or it is empty, and the one
    member that is to come makes it so. -/
def Waits (f : Slot σ) (s : σ) (members : List (String × Doc)) : Prop :=
  (among f.names members = [] ∧ f.good (f.get s)) ∨
    f.get s = none ∧ ∃ m v, among f.names members = [m] ∧ f.decode m.2 = .ok v ∧ f.good (some v)

/-- Two slots have no name in common, and setting one leaves the other alone. -/
@[mk_iff]
structure Apart (f g : Slot σ) : Prop where
  names : ∀ n ∈ f.names, n ∉ g.names
  get_set : ∀ s v, g.get (f.set s v) = g.get s
  set_get : ∀ s v, f.get (g.set s v) = f.get s

instance : Std.Symm (@Apart σ) where
  symm := fun _ _ h => ⟨fun n hg hf => h.names n hf hg, h.set_get, h.get_set⟩

/-- What stands for the field is what the slot reads. -/
structure Suits (f : Slot σ) (field : Field) : Prop where
  names : f.names = field.names
  missing : field.optional → f.good none
  decode : ∀ d, field.spells d → ∃ v, f.decode d = .ok v ∧ f.good (some v)

theorem Suits.waits_of_in {f : Slot σ} {field : Field} (h : f.Suits field) {s : σ} (hs : f.get s = none)
    {members : List (String × Doc)} (hin : field.In members) : f.Waits s members := by
  unfold Waits
  rw [h.names, hs]
  rcases hin with ⟨hnone, hoptional⟩ | ⟨m, hone, hspells⟩
  · exact .inl ⟨hnone, h.missing hoptional⟩
  · obtain ⟨v, hdecode, hgood⟩ := h.decode m.2 hspells
    exact .inr ⟨rfl, m, v, hone, hdecode, hgood⟩

end Slot

/-- A reader that reads members into these slots and passes all others over. -/
structure Reads (accept : σ → String → Option (Doc → Decoded σ)) (slots : List (Slot σ)) :
    Prop where
  known : ∀ f ∈ slots, ∀ n ∈ f.names, ∀ s, accept s n = some (f.take s)
  unknown : ∀ n, (∀ f ∈ slots, n ∉ f.names) → ∀ s, accept s n = none
  get_set : ∀ f ∈ slots, ∀ s v, f.get (f.set s v) = v
  apart : slots.Pairwise Slot.Apart

variable {accept : σ → String → Option (Doc → Decoded σ)} {slots : List (Slot σ)}

/-- One member is read into its slot, and the others wait as before. -/
theorem Reads.exists_take (h : Reads accept slots) {s : σ} {m : String × Doc}
    {rest : List (String × Doc)} (hwaits : ∀ f ∈ slots, f.Waits s (m :: rest)) {f : Slot σ}
    (hf : f ∈ slots) (hm : m.1 ∈ f.names) :
    ∃ s', f.take s m.2 = .ok s' ∧ ∀ g ∈ slots, g.Waits s' rest := by
  have hown := hwaits f hf
  unfold Slot.Waits at hown
  rw [among_cons_of_mem hm] at hown
  rcases hown with ⟨hnone, -⟩ | ⟨hempty, m', v, hone, hdecode, hgood⟩
  · cases hnone
  obtain ⟨rfl, hrest⟩ := List.cons.inj hone
  refine ⟨f.set s (some v), ?_, ?_⟩
  · simp only [Slot.take, fill, hempty, hdecode, Except.ok_bind]
    rfl
  · intro g hg
    by_cases hgf : g = f
    · subst hgf
      exact .inl ⟨hrest, by rwa [h.get_set g hf]⟩
    · have hapart : f.Apart g := h.apart.forall hf hg (Ne.symm hgf)
      have hother := hwaits g hg
      unfold Slot.Waits at hother ⊢
      rwa [among_cons_of_notMem (hapart.names _ hm), ← hapart.get_set s (some v)] at hother

/-- **Members are read in any order**, those of other names among them. -/
theorem Reads.foldMembers_slots (h : Reads accept slots) {members : List (String × Doc)} {s : σ}
    (hprintable : ∀ m ∈ members, m.2.Printable) (hwaits : ∀ f ∈ slots, f.Waits s members) :
    ∃ s', foldMembers accept s (membersDoc members) = .ok s' ∧ ∀ f ∈ slots, f.good (f.get s') := by
  induction members generalizing s with
  | nil =>
    refine ⟨s, rfl, ?_⟩
    intro f hf
    rcases hwaits f hf with ⟨-, hgood⟩ | ⟨-, m, v, hone, -⟩
    · exact hgood
    · cases hone
  | cons m rest ih =>
    obtain ⟨hm, hrest⟩ := List.forall_mem_cons.1 hprintable
    by_cases hknown : ∃ f ∈ slots, m.1 ∈ f.names
    · obtain ⟨f, hf, hname⟩ := hknown
      obtain ⟨s', htake, hwaits'⟩ := h.exists_take hwaits hf hname
      obtain ⟨s'', hfold, hgood⟩ := ih hrest hwaits'
      refine ⟨s'', ?_, hgood⟩
      simpa [membersDoc, Members.ofList, foldMembers, h.known f hf m.1 hname, htake,
        Except.ok_bind] using hfold
    · push Not at hknown
      have hwaits' : ∀ f ∈ slots, f.Waits s rest := by
        intro f hf
        have hf' := hwaits f hf
        unfold Slot.Waits at hf' ⊢
        rwa [among_cons_of_notMem (hknown f hf)] at hf'
      obtain ⟨s', hfold, hgood⟩ := ih hrest hwaits'
      refine ⟨s', ?_, hgood⟩
      simpa [membersDoc, Members.ofList, foldMembers, h.unknown m.1 hknown, hm.isWhole] using hfold

theorem waits_of_written {fields : List Field} (hsuits : List.Forall₂ Slot.Suits slots fields)
    {s : σ} (hempty : ∀ f ∈ slots, f.get s = none) {members : List (String × Doc)}
    (hin : ∀ f ∈ fields, f.In members) : ∀ f ∈ slots, f.Waits s members := by
  induction hsuits with
  | nil => exact nofun
  | cons hsuit _ ih =>
    obtain ⟨hempty', hempties⟩ := List.forall_mem_cons.1 hempty
    obtain ⟨hin', hins⟩ := List.forall_mem_cons.1 hin
    exact List.forall_mem_cons.2 ⟨hsuit.waits_of_in hempty' hin', ih hempties hins⟩

/-- **What stands for a record is read as it should be.** -/
theorem Reads.exists_foldMembers (h : Reads accept slots) {fields : List Field}
    (hsuits : List.Forall₂ Slot.Suits slots fields) {s : σ} (hempty : ∀ f ∈ slots, f.get s = none)
    {members : List (String × Doc)} (hin : ∀ f ∈ fields, f.In members)
    (hprintable : ∀ m ∈ members, m.2.Printable) :
    ∃ s', foldMembers accept s (membersDoc members) = .ok s' ∧ ∀ f ∈ slots, f.good (f.get s') :=
  h.foldMembers_slots hprintable (waits_of_written hsuits hempty hin)

end Slots

end GuestPorts
