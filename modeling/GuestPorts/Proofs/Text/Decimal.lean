/-
  GuestPorts/Proofs/Text/Decimal.lean
  ===================================
  **The digits of a number**: how many there are, which one is the first, and what zeros in
  front do to them.
-/
import GuestPorts.Text.Basic
import Mathlib.Algebra.Group.Nat.Defs

namespace GuestPorts.Text

theorem notMem_digits {c : Char} (h : isDigit c = false) (n : Nat) : c ∉ digits n := by
  intro hmem
  have hdigit := List.all_eq_true.1 (all_isDigit_digits n) c hmem
  rw [h] at hdigit
  cases hdigit

theorem length_digits_le {n k : Nat} (h : n < 10 ^ (k + 1)) : (digits n).length ≤ k + 1 := by
  induction k generalizing n with
  | zero =>
    rw [digits, if_pos (by simpa using h)]
    simp
  | succ k ih =>
    rw [digits]
    split
    · simp
    · have hn : n / 10 < 10 ^ (k + 1) := by
        rw [Nat.pow_succ] at h
        exact Nat.div_lt_of_lt_mul (by omega)
      have := ih hn
      simp only [List.length_append, List.length_singleton]
      omega

/-- A numeral begins with a zero only when it is the numeral of zero. -/
theorem head?_digits_eq_zero {n : Nat} (h : (digits n).head? = some '0') : n = 0 := by
  fun_induction digits n with
  | case1 n hn =>
    have hchar : digitChar n = '0' := Option.some.inj h
    have hvalue := digitValue_digitChar hn
    rw [hchar] at hvalue
    exact hvalue.symm
  | case2 n hn ih =>
    obtain ⟨c, hc⟩ := Option.isSome_iff_exists.1 (List.isSome_head?.2 (digits_ne_nil (n / 10)))
    rw [List.head?_append, hc, Option.some_or] at h
    have hzero := ih (hc.trans h)
    omega

theorem isDigit_of_mem_padded {width n : Nat} {c : Char} (h : c ∈ padded width n) :
    isDigit c = true := by
  rcases List.mem_append.1 h with hzero | hdigit
  · rw [(List.mem_replicate.1 hzero).2]
    rfl
  · exact List.all_eq_true.1 (all_isDigit_digits n) c hdigit

theorem padded_ne_nil (width n : Nat) : padded width n ≠ [] := by
  unfold padded
  simp [digits_ne_nil]

theorem length_padded {width n : Nat} (h : n < 10 ^ (width + 1)) :
    (padded (width + 1) n).length = width + 1 := by
  have hlen := length_digits_le h
  unfold padded
  rw [List.length_append, List.length_replicate]
  omega

/-- Zeros in front do not count. -/
theorem valueOf_padded (width n : Nat) : valueOf (padded width n) = n := by
  have hzeros : ∀ k, (List.replicate k '0').foldl (fun v c => 10 * v + digitValue c) 0 = 0 := by
    intro k
    induction k with
    | zero => rfl
    | succ k ih =>
      rw [List.replicate_succ, List.foldl_cons]
      exact ih
  unfold valueOf padded
  rw [List.foldl_append, hzeros]
  exact valueOf_digits n

end GuestPorts.Text
