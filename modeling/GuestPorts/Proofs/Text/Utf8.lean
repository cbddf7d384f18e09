/-
  GuestPorts/Proofs/Text/Utf8.lean
  ================================
  **Text is read back from its UTF-8 form** (`decode_encode`): the machine that reads takes
  the bytes of one character at a time and is between characters again behind the last one.
-/
import GuestPorts.Text.Utf8

namespace GuestPorts.Text

theorem isValidChar_bounds (c : Char) :
    c.toNat < 0xD800 ∨ 0xDFFF < c.toNat ∧ c.toNat < 0x110000 := c.valid

/-! ### One byte -/

section Steps

attribute [local simp] decodeFrom

theorem decodeFrom_whole {b : UInt8} {c : Char} (h : lead b = .whole c) (rest : List UInt8) :
    decodeFrom none (b :: rest) = some c :: decodeFrom none rest := by
  simp [h]

theorem decodeFrom_begins {b : UInt8} {p : Pending} (h : lead b = .begins p) (rest : List UInt8) :
    decodeFrom none (b :: rest) = decodeFrom (some p) rest := by
  simp [h]

theorem decodeFrom_last {b low high : UInt8} {bits : Nat} (hlow : low ≤ b) (hhigh : b ≤ high)
    (rest : List UInt8) :
    decodeFrom (some ⟨1, low, high, bits⟩) (b :: rest)
      = some (Char.ofNat (bits * 64 + (b.toNat - 0x80))) :: decodeFrom none rest := by
  simp [hlow, hhigh]

theorem decodeFrom_inner {b low high : UInt8} {bits owed : Nat} (hlow : low ≤ b) (hhigh : b ≤ high)
    (rest : List UInt8) :
    decodeFrom (some ⟨owed + 2, low, high, bits⟩) (b :: rest)
      = decodeFrom (some ⟨owed + 1, 0x80, 0xBF, bits * 64 + (b.toNat - 0x80)⟩) rest := by
  simp [hlow, hhigh]

end Steps

/-! ### First bytes -/

theorem toNat_ofNat {n : Nat} (h : n < 256) : (UInt8.ofNat n).toNat = n :=
  UInt8.toNat_ofNat_of_lt' h

theorem lead_one {b : UInt8} (h : b.toNat < 0x80) : lead b = .whole (Char.ofNat b.toNat) := by
  have hb : b < 0x80 := UInt8.lt_iff_toNat_lt.2 h
  simp only [lead, if_pos hb]

theorem lead_two {b : UInt8} (hlow : 0xC2 ≤ b.toNat) (hhigh : b.toNat ≤ 0xDF) :
    lead b = .begins ⟨1, 0x80, 0xBF, b.toNat - 0xC0⟩ := by
  have hlarge : ¬ b < 0x80 := UInt8.not_lt.2 (UInt8.le_iff_toNat_le.2 (Nat.le_trans (by decide) hlow))
  have hbounds : 0xC2 ≤ b ∧ b ≤ 0xDF :=
    ⟨UInt8.le_iff_toNat_le.2 hlow, UInt8.le_iff_toNat_le.2 hhigh⟩
  simp [lead, hlarge, hbounds]

/-- The byte behind the first of three is bounded more tightly after two first bytes. -/
theorem lead_three {b : UInt8} (hlow : 0xE0 ≤ b.toNat) (hhigh : b.toNat ≤ 0xEF) :
    ∃ low high, lead b = .begins ⟨2, low, high, b.toNat - 0xE0⟩ ∧
      ∀ next : UInt8, 0x80 ≤ next.toNat → next.toNat ≤ 0xBF →
        (b.toNat = 0xE0 → 0xA0 ≤ next.toNat) → (b.toNat = 0xED → next.toNat ≤ 0x9F) →
        low ≤ next ∧ next ≤ high := by
  by_cases hE0 : b = 0xE0
  · subst hE0
    exact ⟨0xA0, 0xBF, by decide, fun next _ hle hge _ =>
      ⟨UInt8.le_iff_toNat_le.2 (hge rfl), UInt8.le_iff_toNat_le.2 hle⟩⟩
  by_cases hED : b = 0xED
  · subst hED
    exact ⟨0x80, 0x9F, by decide, fun next hge _ _ hle =>
      ⟨UInt8.le_iff_toNat_le.2 hge, UInt8.le_iff_toNat_le.2 (hle rfl)⟩⟩
  have hlarge : ¬ b < 0x80 := UInt8.not_lt.2 (UInt8.le_iff_toNat_le.2 (Nat.le_trans (by decide) hlow))
  have htwo : ¬ b ≤ 0xDF := UInt8.not_le.2 (UInt8.lt_iff_toNat_lt.2 (Nat.lt_of_lt_of_le (by decide) hlow))
  have hne : b.toNat ≠ 0xE0 := fun h => hE0 (UInt8.toNat_inj.1 h)
  have hbounds : 0xE1 ≤ b ∧ b ≤ 0xEF :=
    ⟨UInt8.le_iff_toNat_le.2 (by simp; omega), UInt8.le_iff_toNat_le.2 hhigh⟩
  refine ⟨0x80, 0xBF, by simp [lead, hlarge, htwo, hE0, hED, hbounds], fun next hge hle _ _ => ?_⟩
  exact ⟨UInt8.le_iff_toNat_le.2 hge, UInt8.le_iff_toNat_le.2 hle⟩

theorem lead_four {b : UInt8} (hlow : 0xF0 ≤ b.toNat) (hhigh : b.toNat ≤ 0xF4) :
    ∃ low high, lead b = .begins ⟨3, low, high, b.toNat - 0xF0⟩ ∧
      ∀ next : UInt8, 0x80 ≤ next.toNat → next.toNat ≤ 0xBF →
        (b.toNat = 0xF0 → 0x90 ≤ next.toNat) → (b.toNat = 0xF4 → next.toNat ≤ 0x8F) →
        low ≤ next ∧ next ≤ high := by
  by_cases hF0 : b = 0xF0
  · subst hF0
    exact ⟨0x90, 0xBF, by decide, fun next _ hle hge _ =>
      ⟨UInt8.le_iff_toNat_le.2 (hge rfl), UInt8.le_iff_toNat_le.2 hle⟩⟩
  by_cases hF4 : b = 0xF4
  · subst hF4
    exact ⟨0x80, 0x8F, by decide, fun next hge _ _ hle =>
      ⟨UInt8.le_iff_toNat_le.2 hge, UInt8.le_iff_toNat_le.2 (hle rfl)⟩⟩
  have hcase : b = 0xF1 ∨ b = 0xF2 ∨ b = 0xF3 := by
    simp only [← UInt8.toNat_inj, UInt8.reduceToNat] at hF0 hF4 ⊢
    omega
  rcases hcase with rfl | rfl | rfl
  all_goals
    exact ⟨0x80, 0xBF, by decide, fun next hge hle _ _ =>
      ⟨UInt8.le_iff_toNat_le.2 hge, UInt8.le_iff_toNat_le.2 hle⟩⟩

/-! ### Whole characters -/

/-- A byte that goes on with a character. -/
theorem continuation {n : Nat} (h : n < 64) :
    (UInt8.ofNat (n + 0x80)).toNat = n + 0x80 ∧ (0x80 : UInt8) ≤ .ofNat (n + 0x80) ∧
      UInt8.ofNat (n + 0x80) ≤ 0xBF := by
  have hn : (UInt8.ofNat (n + 0x80)).toNat = n + 0x80 := toNat_ofNat (by omega)
  refine ⟨hn, UInt8.le_iff_toNat_le.2 ?_, UInt8.le_iff_toNat_le.2 ?_⟩
  · rw [hn]
    simp
  · rw [hn]
    simp
    omega

/-- The bytes of a character are read as that character. -/
theorem decodeFrom_utf8EncodeChar (c : Char) (rest : List UInt8) :
    decodeFrom none (String.utf8EncodeChar c ++ rest) = some c :: decodeFrom none rest := by
  have hvalid : c.val.toNat < 0xD800 ∨ 0xDFFF < c.val.toNat ∧ c.val.toNat < 0x110000 :=
    isValidChar_bounds c
  have hchar : Char.ofNat c.val.toNat = c := c.ofNat_toNat
  fun_cases String.utf8EncodeChar c
  case case1 v h =>
    have hb : (UInt8.ofNat v).toNat = v := toNat_ofNat (by omega)
    have hlead := lead_one (b := UInt8.ofNat v) (by omega)
    rw [hb, hchar] at hlead
    exact decodeFrom_whole hlead rest
  case case2 v h1 h2 =>
    have hb : (UInt8.ofNat (v / 64 % 0x20 + 0xC0)).toNat = v / 64 % 0x20 + 0xC0 :=
      toNat_ofNat (by omega)
    obtain ⟨hlast, hlow, hhigh⟩ := continuation (n := v % 0x40) (by omega)
    have hlead := lead_two (b := UInt8.ofNat (v / 64 % 0x20 + 0xC0)) (by omega) (by omega)
    have hv : (v / 64 % 0x20 + 0xC0 - 0xC0) * 64 + (v % 0x40 + 0x80 - 0x80) = v := by omega
    rw [List.cons_append, List.singleton_append, decodeFrom_begins hlead,
      decodeFrom_last hlow hhigh, hb, hlast, hv, hchar]
  case case3 v h1 h2 h3 =>
    have hb : (UInt8.ofNat (v / 4096 % 0x10 + 0xE0)).toNat = v / 4096 % 0x10 + 0xE0 :=
      toNat_ofNat (by omega)
    obtain ⟨hmiddle, -, -⟩ := continuation (n := v / 64 % 0x40) (by omega)
    obtain ⟨hlast, hlow, hhigh⟩ := continuation (n := v % 0x40) (by omega)
    obtain ⟨low, high, hlead, hnext⟩ :=
      lead_three (b := UInt8.ofNat (v / 4096 % 0x10 + 0xE0)) (by omega) (by omega)
    -- after E0 the number is no long form, after ED it is no surrogate
    obtain ⟨hlow', hhigh'⟩ := hnext (UInt8.ofNat (v / 64 % 0x40 + 0x80)) (by omega) (by omega)
      (by omega) (by omega)
    have hv : ((v / 4096 % 0x10 + 0xE0 - 0xE0) * 64 + (v / 64 % 0x40 + 0x80 - 0x80)) * 64
        + (v % 0x40 + 0x80 - 0x80) = v := by omega
    rw [List.cons_append, List.cons_append, List.singleton_append, decodeFrom_begins hlead,
      decodeFrom_inner hlow' hhigh', decodeFrom_last hlow hhigh, hb, hmiddle, hlast, hv, hchar]
  case case4 v h1 h2 h3 =>
    have hb : (UInt8.ofNat (v / 262144 % 0x08 + 0xF0)).toNat = v / 262144 % 0x08 + 0xF0 :=
      toNat_ofNat (by omega)
    obtain ⟨hsecond, -, -⟩ := continuation (n := v / 4096 % 0x40) (by omega)
    obtain ⟨hthird, hlow, hhigh⟩ := continuation (n := v / 64 % 0x40) (by omega)
    obtain ⟨hlast, hlow', hhigh'⟩ := continuation (n := v % 0x40) (by omega)
    obtain ⟨low, high, hlead, hnext⟩ :=
      lead_four (b := UInt8.ofNat (v / 262144 % 0x08 + 0xF0)) (by omega) (by omega)
    obtain ⟨hlow'', hhigh''⟩ := hnext (UInt8.ofNat (v / 4096 % 0x40 + 0x80)) (by omega) (by omega)
      (by omega) (by omega)
    have hv : (((v / 262144 % 0x08 + 0xF0 - 0xF0) * 64 + (v / 4096 % 0x40 + 0x80 - 0x80)) * 64
        + (v / 64 % 0x40 + 0x80 - 0x80)) * 64 + (v % 0x40 + 0x80 - 0x80) = v := by omega
    rw [List.cons_append, List.cons_append, List.cons_append, List.singleton_append,
      decodeFrom_begins hlead, decodeFrom_inner hlow'' hhigh'', decodeFrom_inner hlow hhigh,
      decodeFrom_last hlow' hhigh', hb, hsecond, hthird, hlast, hv, hchar]

theorem decodeFrom_encode (cs : List Char) : decodeFrom none (encode cs) = cs.map some := by
  induction cs with
  | nil => rfl
  | cons c rest ih =>
    simp only [encode, List.flatMap_cons, List.map_cons] at ih ⊢
    rw [decodeFrom_utf8EncodeChar, ih]

/-- **A text is read back from its UTF-8 form.** -/
theorem decode_encode (cs : List Char) : decode (encode cs) = some cs := by
  unfold decode
  rw [decodeFrom_encode]
  induction cs with
  | nil => rfl
  | cons c rest ih => simp [ih]

theorem encode_injective : Function.Injective encode := by
  intro cs cs' h
  have hdecode := congrArg decode h
  rw [decode_encode, decode_encode] at hdecode
  exact Option.some.inj hdecode

end GuestPorts.Text
