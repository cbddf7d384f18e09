/-
  GuestPorts/Proofs/Chain/Usable.lean
  ===================================
  **Which guest names are usable**, and what is wrong with the others.

  A name is usable when it is not empty and the packet filter takes every character of it
  (`Role.checkName_eq_ok_iff`).  Any other name has one fault that is reported: it is empty, or
  some character is the first one that is refused (`Role.checkName_eq_error_iff`).
-/
import GuestPorts.Proofs.Chain.Names

namespace GuestPorts

namespace Role

/-- A character that may stand in the name of a chain. -/
def Allowed (c : Char) : Prop :=
  Text.isBlank c = false ∧ Text.isControl c = false ∧ c ∉ forbidden

/-- A guest name that chain names can be made from. -/
def Usable (vmName : String) : Prop := vmName ≠ "" ∧ ∀ c ∈ vmName.toList, Allowed c

/-- The fault of a name that is not usable. -/
inductive Faulty (vmName : String) : NameError → Prop
  | empty (h : vmName = "") : Faulty vmName .empty
  | badCharacter (front rest : List Char) (ch : Char) (hname : vmName.toList = front ++ ch :: rest)
    (hfront : ∀ c ∈ front, Allowed c) (hch : ¬Allowed ch) : Faulty vmName (.badCharacter vmName ch)

theorem refuses_eq_false_iff {c : Char} : refuses c = false ↔ Allowed c := by
  simp [refuses, Allowed, and_assoc]

theorem refuses_iff {c : Char} : refuses c = true ↔ ¬Allowed c := by
  rw [← refuses_eq_false_iff, Bool.not_eq_false]

theorem allowed_of_mem {cs : List Char} (hall : cs.all (fun c => !refuses c) = true) {c : Char}
    (hc : c ∈ cs) : Allowed c := by
  have hkept := List.all_eq_true.1 hall c hc
  rw [Bool.not_eq_true'] at hkept
  exact refuses_eq_false_iff.1 hkept

theorem find?_refuses_eq_none {cs : List Char} :
    cs.find? refuses = none ↔ ∀ c ∈ cs, Allowed c := by
  simp only [List.find?_eq_none, Bool.not_eq_true, refuses_eq_false_iff]

theorem find?_refuses_eq_some {cs : List Char} {ch : Char} :
    cs.find? refuses = some ch ↔
      ¬Allowed ch ∧ ∃ front rest, cs = front ++ ch :: rest ∧ ∀ c ∈ front, Allowed c := by
  simp only [List.find?_eq_some_iff_append, Bool.not_eq_true', refuses_iff, refuses_eq_false_iff]

theorem usable_or_faulty (vmName : String) : Usable vmName ∨ ∃ e, Faulty vmName e := by
  by_cases hempty : vmName = ""
  · exact .inr ⟨.empty, .empty hempty⟩
  · cases hfind : vmName.toList.find? refuses with
    | none => exact .inl ⟨hempty, find?_refuses_eq_none.1 hfind⟩
    | some ch =>
      obtain ⟨hch, front, rest, hname, hfront⟩ := find?_refuses_eq_some.1 hfind
      exact .inr ⟨_, .badCharacter front rest ch hname hfront hch⟩

theorem checkName_of_usable {vmName : String} (h : Usable vmName) : checkName vmName = .ok () := by
  have hne : vmName.toList.isEmpty = false := by simpa using h.1
  simp [checkName, hne, find?_refuses_eq_none.2 h.2]

theorem checkName_of_faulty {vmName : String} {e : NameError} (h : Faulty vmName e) :
    checkName vmName = .error e := by
  cases h with
  | empty h =>
    rw [h]
    rfl
  | badCharacter front rest ch hname hfront hch =>
    have hfind := find?_refuses_eq_some.2 ⟨hch, front, rest, rfl, hfront⟩
    simp [checkName, hname, hfind]

theorem checkName_eq_ok_iff {vmName : String} : checkName vmName = .ok () ↔ Usable vmName := by
  refine ⟨fun h => (usable_or_faulty vmName).resolve_right ?_, checkName_of_usable⟩
  rintro ⟨e, he⟩
  rw [checkName_of_faulty he] at h
  cases h

theorem checkName_eq_error_iff {vmName : String} {e : NameError} :
    checkName vmName = .error e ↔ Faulty vmName e := by
  refine ⟨fun h => ?_, checkName_of_faulty⟩
  rcases usable_or_faulty vmName with husable | ⟨e', he'⟩
  · rw [checkName_of_usable husable] at h
    cases h
  · rw [checkName_of_faulty he'] at h
    cases h
    exact he'

theorem name_of_usable {vmName : String} (h : Usable vmName) (role : Role) :
    role.name vmName = .ok (role.text vmName) := by
  rw [name, checkName_of_usable h]
  rfl

theorem name_of_faulty {vmName : String} {e : NameError} (h : Faulty vmName e) (role : Role) :
    role.name vmName = .error e := by
  rw [name, checkName_of_faulty h]
  rfl

end Role

theorem Chains.ofGuest_of_usable {vmName : String} (h : Role.Usable vmName) :
    Chains.ofGuest vmName = .ok (Chains.named vmName) := by
  rw [Chains.ofGuest_eq_map, Role.checkName_of_usable h]
  rfl

theorem Chains.ofGuest_of_faulty {vmName : String} {e : NameError} (h : Role.Faulty vmName e) :
    Chains.ofGuest vmName = .error e := by
  rw [Chains.ofGuest_eq_map, Role.checkName_of_faulty h]
  rfl

end GuestPorts
