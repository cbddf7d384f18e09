/-
  GuestPorts/Proofs/Registry/Decode.lean
  ======================================
  **What single values decode to**: ports, protocols, names and texts that may be unset.  An
  interface comes back without the blanks around it, and not at all when it is blank
  (`Declaration.normalized`).
-/
import GuestPorts.Proofs.Address
import GuestPorts.Proofs.Json.Scalars
import GuestPorts.Proofs.Time.ReadBack
import GuestPorts.Registry.Json

namespace GuestPorts

open GuestPorts.Json

/-! ### Declarations in their normal form -/

/-- A text without the blanks around it, nothing if it is blank. -/
def tidy (s : String) : Option String :=
  if Text.trim s.toList = [] then none else some (Text.trimmed s)

theorem tidy_trimmed (s : String) : tidy (Text.trimmed s) = tidy s := by
  unfold tidy
  rw [Text.toList_trimmed, Text.trim_trim]
  simp only [Text.trimmed, String.toList_ofList, Text.trim_trim]

theorem tidy_of_tidy_eq_some {s s' : String} (h : tidy s = some s') : tidy s' = some s' := by
  unfold tidy at h
  split at h
  · cases h
  · next hne =>
    cases h
    rw [tidy_trimmed]
    exact if_neg hne

namespace Declaration

def normalized (d : Declaration) : Declaration := { d with interface := d.interface.bind tidy }

/-- The time of the last change is one that the calendar and a clock can show. -/
def Dated (d : Declaration) : Prop := ∀ t ∈ d.lastUpdated, t.Valid

end Declaration

namespace Registry

def normalized (r : Registry) : Registry :=
  { r with entries := r.entries.map Declaration.normalized }

def Dated (r : Registry) : Prop :=
  (∀ d ∈ r.entries, d.Dated) ∧ ∀ t ∈ r.lastUpdated, t.Valid

end Registry

/-! ### Values -/

theorem wordOf_portDoc (p : Port) : wordOf (portDoc p) = .ok p := by
  have hp : p.toNat < 65536 := p.toNat_lt
  have hnumber : Number.ofNumeral (.ofNat p.toNat) = .integer p.toNat := by
    have hbound : p.toNat < Number.wordBound :=
      hp.trans_le (Nat.pow_le_pow_right (by omega : 0 < 2) (by omega : 16 ≤ 64))
    simp [Number.ofNumeral, Numeral.ofNat, Text.valueOf_digits, hbound]
  have hrange : 0 ≤ (p.toNat : Int) ∧ (p.toNat : Int) < 65536 := by omega
  simp only [wordOf, portDoc, hnumber, if_pos hrange, Int.toNat_natCast, UInt16.ofNat_toNat]

theorem protocolOf_word (p : Protocol) : protocolOf (.ofString p.word) = .ok p := by
  cases p <;> rfl

theorem nameOf_ofString (s : String) : nameOf (.ofString s) = .ok s := by
  simp only [nameOf, Doc.ofString, stringOf, Except.ok_bind, String.ofList_toList]
  rfl

/-- A text that may be unset is read without the blanks around it. -/
theorem unsetOr_ofString {α : Type} (parse : List Char → Except String α) (s : String) :
    unsetOr parse (.ofString s) = match Text.trim s.toList with
      | [] => .ok none
      | c :: r =>
        match parse (c :: r) with
        | .ok a => .ok (some a)
        | .error reason => refuse (.badText reason) := rfl

/-! ### Texts without blanks -/

theorem trim_text_address (ip : Address) : Text.trim ip.text.toList = ip.toChars := by
  rw [Address.text, String.toList_ofList]
  apply Text.trim_eq_self
  intro c hc
  rcases ip.eq_or_isDigit_of_mem_toChars hc with rfl | hdigit
  · rfl
  · exact Text.isBlank_of_isDigit hdigit

theorem trim_text_moment (t : Moment) : Text.trim t.text.toList = t.toChars := by
  rw [Moment.text, String.toList_ofList]
  exact Text.trim_eq_self fun _ => t.isBlank_of_mem_toChars

end GuestPorts
