/-
  GuestPorts/Proofs/Address.lean
  ==============================
  **An address is read back from its text**, so different addresses have different texts.

  The four numerals hold digits only, so the points are the only places where the text is
  cut; each numeral has at most three digits and no zero in front.
-/
import GuestPorts.Declaration
import GuestPorts.Proofs.Text.Decimal
import GuestPorts.Proofs.Text.Split

namespace GuestPorts

namespace Address

theorem readOctet_digits (u : UInt8) : readOctet (Text.digits u.toNat) = some u := by
  have hlt : u.toNat < 256 := u.toNat_lt
  have hlen : (Text.digits u.toNat).length ≤ 2 + 1 := Text.length_digits_le (by omega)
  have hzero : (Text.digits u.toNat).length ≤ 1 ∨ (Text.digits u.toNat).head? ≠ some '0' := by
    by_cases h : (Text.digits u.toNat).head? = some '0'
    · rw [Text.head?_digits_eq_zero h]
      exact .inl (by rw [Text.digits]; simp)
    · exact .inr h
  unfold readOctet
  rw [if_pos (by simpa [hlen] using hzero), Text.readDigits_digits]
  simp [hlt]

theorem eq_or_isDigit_of_mem_toChars (ip : Address) {c : Char} (h : c ∈ ip.toChars) :
    c = '.' ∨ Text.isDigit c = true := by
  have hdigits : ∀ {n : Nat}, c ∈ Text.digits n → Text.isDigit c = true :=
    fun hc => List.all_eq_true.1 (Text.all_isDigit_digits _) c hc
  simp only [toChars, List.map_cons, List.map_nil, Text.join, List.mem_append,
    List.mem_singleton] at h
  rcases h with (h | rfl) | (h | rfl) | (h | rfl) | h
  · exact .inr (hdigits h)
  · exact .inl rfl
  · exact .inr (hdigits h)
  · exact .inl rfl
  · exact .inr (hdigits h)
  · exact .inl rfl
  · exact .inr (hdigits h)

theorem toChars_ne_nil (ip : Address) : ip.toChars ≠ [] := by
  simp [toChars, Text.join]

/-- **An address is read back from its text.** -/
theorem ofChars?_toChars (ip : Address) : ofChars? ip.toChars = some ip := by
  have hpoint : Text.isDigit '.' = false := by decide
  unfold ofChars? toChars
  rw [Text.splitAt_join (by simp) (by simp [Text.notMem_digits hpoint])]
  simp [readOctet_digits]

@[simp] theorem ofString?_text (ip : Address) : ofString? ip.text = some ip := by
  unfold ofString? text
  rw [String.toList_ofList, ofChars?_toChars]

/-- Different addresses have different texts. -/
theorem text_inj {ip ip' : Address} (h : ip.text = ip'.text) : ip = ip' := by
  have hread := ofString?_text ip
  rw [h, ofString?_text] at hread
  exact (Option.some.inj hread).symm

end Address

end GuestPorts
