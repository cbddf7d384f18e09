/-
  GuestPorts/Proofs/Time/ReadBack.lean
  ====================================
  **A moment is read back from its text** (`Moment.ofChars_toChars`): in any year that can be
  kept, with and without a fraction, leap seconds included.  What is read from any text is a
  moment that the calendar and a clock can show (`Moment.valid_of_ofChars`).
-/
import GuestPorts.Effect
import GuestPorts.Proofs.Text.Blank
import GuestPorts.Proofs.Text.Decimal
import GuestPorts.Time.Basic
import GuestPorts.Time.Reader

namespace GuestPorts

namespace Text

/-- Digits in front of a text are not trimmed. -/
theorem trimStart_append_of_isDigit {ds : List Char} (hne : ds ≠ [])
    (h : ∀ c ∈ ds, isDigit c = true) (rest : List Char) : trimStart (ds ++ rest) = ds ++ rest := by
  obtain ⟨c, r, rfl⟩ := List.exists_cons_of_ne_nil hne
  apply trimStart_eq_self
  intro d hd
  cases hd
  exact isBlank_of_isDigit (h c List.mem_cons_self)

theorem valueOf_lt {ds : List Char} (h : ∀ c ∈ ds, isDigit c = true) :
    valueOf ds < 10 ^ ds.length := by
  induction ds using List.reverseRecOn with
  | nil => simp [valueOf]
  | append_singleton ds c ih =>
    have hds := ih fun d hd => h d (List.mem_append_left _ hd)
    have hc : digitValue c < 10 := by
      have hdigit : isDigit c = true := h c (by simp)
      have hbounds : 48 ≤ c.toNat ∧ c.toNat ≤ 57 := by
        simpa [isDigit, Char.le_def, UInt32.le_iff_toNat_le] using hdigit
      simp only [digitValue, show '0'.toNat = 48 from rfl]
      omega
    simp only [valueOf, List.foldl_append, List.foldl_cons, List.foldl_nil, List.length_append,
      List.length_singleton, Nat.pow_succ] at hds ⊢
    omega

end Text

namespace Moment

open GuestPorts.Text (isDigit padded valueOf trimStart)

/-! ### Numbers -/

theorem checkDigits_append {ds : List Char} (hne : ds ≠ []) (h : valueOf ds < 2 ^ 63)
    (rest : List Char) : checkDigits ds (ds ++ rest) = .ok (valueOf ds, rest) := by
  obtain ⟨c, r, rfl⟩ := List.exists_cons_of_ne_nil hne
  have hn : valueOf (c :: r) < Nat.pow 2 63 := h
  simp only [checkDigits, if_pos hn, List.drop_left]

/-- The digits at the front, when there are just so many or something else follows. -/
theorem frontDigits_append {width : Nat} {ds rest : List Char} (h : ∀ c ∈ ds, isDigit c = true)
    (hlen : ds.length ≤ width)
    (hrest : ds.length = width ∨ ∀ c ∈ rest.head?, isDigit c = false) :
    frontDigits width (ds ++ rest) = ds := by
  unfold frontDigits
  rw [List.take_append, List.take_of_length_le hlen, List.takeWhile_append_of_pos h]
  suffices hnone : (rest.take (width - ds.length)).takeWhile isDigit = [] by
    rw [hnone, List.append_nil]
  rcases hrest with heq | hstop
  · rw [heq, Nat.sub_self]
    rfl
  · cases rest with
    | nil => rw [List.take_nil]; rfl
    | cons c r =>
      cases width - ds.length with
      | zero => rfl
      | succ k => simp [hstop c rfl]

theorem number_padded {low high n : Nat} (hbounds : low ≤ n ∧ n ≤ high) (h : n < 100)
    (rest : List Char) : number 2 low high (padded 2 n ++ rest) = .ok (n, rest) := by
  have hdigits : ∀ c ∈ padded 2 n, isDigit c = true := fun _ => Text.isDigit_of_mem_padded
  have hlen : (padded 2 n).length = 2 := Text.length_padded h
  have hvalue := Text.valueOf_padded 2 n
  have hcheck := checkDigits_append (Text.padded_ne_nil 2 n) (by omega) rest
  rw [hvalue] at hcheck
  unfold number
  simp only [Text.trimStart_append_of_isDigit (Text.padded_ne_nil 2 n) hdigits,
    frontDigits_append hdigits hlen.le (.inl hlen), hcheck]
  exact if_pos hbounds

theorem separator_cons {c : Char} (h : Text.isBlank c = false) (rest : List Char) :
    separator c (c :: rest) = .ok rest := by
  have hstart : trimStart (c :: rest) = c :: rest := Text.trimStart_eq_self fun d hd => by
    cases hd
    exact h
  simp only [separator, hstart, if_true]

theorem year_unsigned {ds : List Char} (hds : ∀ c ∈ ds, isDigit c = true) (hlen : ds.length = 4)
    (rest : List Char) : year (ds ++ rest) = .ok ((valueOf ds : Int), rest) := by
  have hne : ds ≠ [] := by
    rintro rfl
    cases hlen
  have hsmall : valueOf ds < 10 ^ 4 := hlen ▸ Text.valueOf_lt hds
  have hrange : -2147483648 ≤ (valueOf ds : Int) ∧ (valueOf ds : Int) < 2147483648 := by omega
  have hsign : ∀ c, isDigit c = false → ∀ r, ds ++ rest ≠ c :: r := by
    rintro c hc r heq
    obtain ⟨d, ds, rfl⟩ := List.exists_cons_of_ne_nil hne
    have hd := hds d List.mem_cons_self
    rw [(List.cons.inj heq).1, hc] at hd
    cases hd
  unfold year
  rw [Text.trimStart_append_of_isDigit hne hds]
  split
  · next heq => exact absurd heq (hsign '-' rfl _)
  · next heq => exact absurd heq (hsign '+' rfl _)
  · simp only [frontDigits_append hds hlen.le (.inl hlen), checkDigits_append hne (by omega) rest,
      Except.ok_bind, pure_bind, if_pos hrange]
    rfl

theorem year_signed {ds : List Char} (hne : ds ≠ []) (hds : ∀ c ∈ ds, isDigit c = true)
    (hsmall : valueOf ds < 2 ^ 31) {rest : List Char}
    (hrest : ∀ c ∈ rest.head?, isDigit c = false) :
    year ('-' :: (ds ++ rest)) = .ok (-(valueOf ds : Int), rest) ∧
      year ('+' :: (ds ++ rest)) = .ok ((valueOf ds : Int), rest) := by
  have hcheck := checkDigits_append hne (by omega) rest
  have hrun : (ds ++ rest).takeWhile isDigit = ds := by
    rw [List.takeWhile_append_of_pos hds]
    cases rest with
    | nil => simp
    | cons c r => simp [hrest c rfl]
  constructor
  · have hstart : trimStart ('-' :: (ds ++ rest)) = '-' :: (ds ++ rest) :=
      Text.trimStart_eq_self (by simp; decide)
    have hrange : -2147483648 ≤ -(valueOf ds : Int) ∧ -(valueOf ds : Int) < 2147483648 := by omega
    simp only [year, hstart, hrun, hcheck, Except.ok_bind, pure_bind, if_pos hrange]
    rfl
  · have hstart : trimStart ('+' :: (ds ++ rest)) = '+' :: (ds ++ rest) :=
      Text.trimStart_eq_self (by simp; decide)
    have hrange : -2147483648 ≤ (valueOf ds : Int) ∧ (valueOf ds : Int) < 2147483648 := by omega
    simp only [year, hstart, hrun, hcheck, Except.ok_bind, pure_bind, if_pos hrange]
    rfl

theorem year_yearChars {y : Int} (hlow : Date.minYear ≤ y) (hhigh : y ≤ Date.maxYear)
    {rest : List Char} (hrest : ∀ c ∈ rest.head?, isDigit c = false) :
    year (yearChars y ++ rest) = .ok (y, rest) := by
  simp only [Date.minYear, Date.maxYear] at hlow hhigh
  have hdigits : ∀ c ∈ padded 4 y.natAbs, isDigit c = true := fun _ => Text.isDigit_of_mem_padded
  have hvalue := Text.valueOf_padded 4 y.natAbs
  obtain ⟨hminus, hplus⟩ := year_signed (Text.padded_ne_nil 4 y.natAbs) hdigits
    (by omega) hrest
  unfold yearChars
  split_ifs with hneg hlarge
  · have hy : -((y.natAbs : Nat) : Int) = y := by omega
    rw [hvalue, hy] at hminus
    exact hminus
  · have hy : ((y.natAbs : Nat) : Int) = y := by omega
    rw [hvalue, hy] at hplus
    exact hplus
  · have hlen : (padded 4 y.natAbs).length = 4 := Text.length_padded (by omega)
    have hy : ((y.natAbs : Nat) : Int) = y := by omega
    rw [year_unsigned hdigits hlen, hvalue, hy]

/-! ### Fractions -/

theorem fraction_fractionChars {nanos : Nat} (h : nanos < 1000000000) :
    fraction (fractionChars nanos ++ ['Z']) = .ok (nanos, ['Z']) := by
  have hpoint : ∀ width n : Nat, n < 10 ^ (width + 1) → width + 1 ≤ 9 →
      n * Nat.pow 10 (9 - (width + 1)) = nanos →
      fraction ('.' :: (padded (width + 1) n ++ ['Z'])) = .ok (nanos, ['Z']) := by
    intro width n hn hwidth hnanos
    have hdigits : ∀ c ∈ padded (width + 1) n, isDigit c = true :=
      fun _ => Text.isDigit_of_mem_padded
    have hlen : (padded (width + 1) n).length = width + 1 := Text.length_padded hn
    have hbehind : ∀ c ∈ ['Z'].head?, isDigit c = false := fun c hc => by
      cases hc
      rfl
    have hfront : frontDigits 9 (padded (width + 1) n ++ ['Z']) = padded (width + 1) n :=
      frontDigits_append hdigits (by omega) (.inr hbehind)
    have hvalue := Text.valueOf_padded (width + 1) n
    have hsmall : n < 2 ^ 63 :=
      hn.trans_le ((Nat.pow_le_pow_right (by omega) hwidth).trans (by omega))
    have hcheck := checkDigits_append (Text.padded_ne_nil (width + 1) n)
      (hvalue.symm ▸ hsmall) ['Z']
    rw [hvalue] at hcheck
    simp only [fraction, hfront, hcheck, hlen, Except.ok_bind, hnanos]
    rfl
  unfold fractionChars
  split_ifs with hzero hmilli hmicro
  · subst hzero
    rfl
  · exact hpoint 2 (nanos / 1000000) (by omega) (by omega) (by simp; omega)
  · exact hpoint 5 (nanos / 1000) (by omega) (by omega) (by simp; omega)
  · exact hpoint 8 nanos (by omega) (by omega) (by simp)

/-! ### Moments -/

theorem isBlank_of_mem_toChars (t : Moment) {c : Char} (h : c ∈ t.toChars) :
    Text.isBlank c = false := by
  have hpadded : ∀ {width n : Nat}, c ∈ padded width n → Text.isBlank c = false :=
    fun hc => Text.isBlank_of_isDigit (Text.isDigit_of_mem_padded hc)
  have hsigned : ∀ {sign : Char} {width n : Nat}, Text.isBlank sign = false →
      c ∈ sign :: padded width n → Text.isBlank c = false := by
    intro sign width n hsign hc
    rcases List.mem_cons.1 hc with rfl | hc
    · exact hsign
    · exact hpadded hc
  have hyear : c ∈ yearChars t.date.year → Text.isBlank c = false := by
    unfold yearChars
    split_ifs
    · exact hsigned (by decide)
    · exact hsigned (by decide)
    · exact hpadded
  have hfraction : c ∈ fractionChars t.nanos → Text.isBlank c = false := by
    unfold fractionChars
    split_ifs
    · exact nofun
    · exact hsigned (by decide)
    · exact hsigned (by decide)
    · exact hsigned (by decide)
  simp only [toChars, secondsChars, List.mem_append] at h
  rcases h with ((((((hc | hc) | hc) | hc) | hc) | hc) | hc) | hc
  · exact hyear hc
  · exact hsigned (by decide) hc
  · exact hsigned (by decide) hc
  · exact hsigned (by decide) hc
  · exact hsigned (by decide) hc
  · exact hsigned (by decide) hc
  · exact hfraction hc
  · rw [List.mem_singleton.1 hc]
    rfl

/-- UTC is its own offset. -/
theorem inUtc_zero {t : Moment} (h : t.Valid) : t.inUtc 0 = .ok t := by
  obtain ⟨hdate, hhour, hminute, -, -⟩ := h
  have hsame : t.atOffset 0 = t := by
    obtain ⟨date, hour, minute, second, nanos⟩ := t
    simp only at hhour hminute
    have hday : ¬ ((hour * 60 + minute : Nat) : Int) - 0 < 0 := by omega
    have hday' : ((hour * 60 + minute : Nat) : Int) - 0 < 1440 := by omega
    simp only [atOffset, if_neg hday, if_pos hday', Moment.mk.injEq, true_and, and_true]
    omega
  unfold inUtc
  rw [hsame, if_neg (not_not.2 hdate), if_neg (by decide), if_neg (not_not.2 hdate)]

/-- **A moment is read back from its text.** -/
theorem ofChars_toChars {t : Moment} (h : t.Valid) : ofChars t.toChars = .ok t := by
  obtain ⟨hdate, hhour, hminute, hsecond, hnanos⟩ := id h
  obtain ⟨hlow, hhigh, hmonth, hmonth', hday, hday'⟩ := id hdate
  have hday31 : t.date.day ≤ 31 := by
    refine hday'.trans ?_
    unfold Date.daysInMonth
    split <;> (try split) <;> omega
  have hyear : ∀ rest, year (yearChars t.date.year ++ '-' :: rest)
      = .ok (t.date.year, '-' :: rest) := fun rest => year_yearChars hlow hhigh (by simp; decide)
  have hmonthRead : ∀ rest, number 2 1 12 (padded 2 t.date.month ++ rest) = .ok (t.date.month, rest) :=
    number_padded ⟨hmonth, hmonth'⟩ (by omega)
  have hdayRead : ∀ rest, number 2 1 31 (padded 2 t.date.day ++ rest) = .ok (t.date.day, rest) :=
    number_padded ⟨hday, hday31⟩ (by omega)
  have hhourRead : ∀ rest, number 2 0 23 (padded 2 t.hour ++ rest) = .ok (t.hour, rest) :=
    number_padded (by omega) (by omega)
  have hminuteRead : ∀ rest, number 2 0 59 (padded 2 t.minute ++ rest) = .ok (t.minute, rest) :=
    number_padded (by omega) (by omega)
  have hsecondRead : ∀ rest, number 2 0 60 (padded 2 t.second ++ rest) = .ok (t.second, rest) :=
    number_padded (by omega) (by omega)
  have hdash : ∀ rest, separator '-' ('-' :: rest) = .ok rest := separator_cons (by decide)
  have hcolon : ∀ rest, separator ':' (':' :: rest) = .ok rest := separator_cons (by decide)
  have hmark : ∀ rest, dayMark ('T' :: rest) = .ok rest := fun _ => rfl
  have hutc : offset (trimStart ['Z']) = .ok (0, []) := rfl
  unfold ofChars toChars secondsChars
  simp only [List.append_assoc, List.cons_append, hyear, hmonthRead, hdayRead, hhourRead,
    hminuteRead, hsecondRead, hdash, hcolon, hmark, fraction_fractionChars hnanos, hutc,
    Except.ok_bind]
  exact (if_neg (by decide)).trans (inUtc_zero h)

theorem bounds_of_number {width low high n : Nat} {cs rest : List Char}
    (h : number width low high cs = .ok (n, rest)) : low ≤ n ∧ n ≤ high := by
  unfold number at h
  obtain ⟨⟨k, r⟩, -, h⟩ := Except.bind_eq_ok.1 h
  simp only at h
  split at h
  · next hbounds =>
    cases h
    exact hbounds
  · cases h

theorem fraction_lt {cs rest : List Char} {nanos : Nat} (h : fraction cs = .ok (nanos, rest)) :
    nanos < 1000000000 := by
  unfold fraction at h
  split at h
  · next r =>
    obtain ⟨⟨n, rest⟩, hcheck, h⟩ := Except.bind_eq_ok.1 h
    cases h
    have hlen : (frontDigits 9 r).length ≤ 9 :=
      (List.takeWhile_prefix _).length_le.trans (List.length_take_le 9 r)
    have hvalue : n < 10 ^ (frontDigits 9 r).length := by
      have hdigits : ∀ c ∈ frontDigits 9 r, isDigit c = true := fun _ => List.mem_takeWhile_imp
      unfold checkDigits at hcheck
      split at hcheck
      · cases hcheck
      · cases hcheck
      · next heq _ =>
        split at hcheck
        · cases hcheck
          exact Text.valueOf_lt hdigits
        · cases hcheck
    calc n * 10 ^ (9 - (frontDigits 9 r).length)
        < 10 ^ (frontDigits 9 r).length * 10 ^ (9 - (frontDigits 9 r).length) :=
          Nat.mul_lt_mul_of_pos_right hvalue (Nat.pow_pos (by omega))
      _ = 10 ^ 9 := by rw [← Nat.pow_add, Nat.add_sub_cancel' hlen]
  · cases h
    omega

theorem valid_of_inUtc {t u : Moment} {ahead : Int} (h : t.inUtc ahead = .ok u)
    (hsecond : t.second ≤ 60) (hnanos : t.nanos < 1000000000) : u.Valid := by
  unfold inUtc at h
  split_ifs at h with hdate hahead hutc
  cases h
  refine ⟨hutc, ?_, ?_, hsecond, hnanos⟩
  · simp only [atOffset]
    omega
  · simp only [atOffset]
    omega

/-- **What is read is a moment that the calendar and a clock can show.** -/
theorem valid_of_ofChars {cs : List Char} {t : Moment} (h : ofChars cs = .ok t) : t.Valid := by
  unfold ofChars at h
  obtain ⟨⟨y, _⟩, -, h⟩ := Except.bind_eq_ok.1 h
  obtain ⟨_, -, h⟩ := Except.bind_eq_ok.1 h
  obtain ⟨⟨month, _⟩, -, h⟩ := Except.bind_eq_ok.1 h
  obtain ⟨_, -, h⟩ := Except.bind_eq_ok.1 h
  obtain ⟨⟨day, _⟩, -, h⟩ := Except.bind_eq_ok.1 h
  obtain ⟨_, -, h⟩ := Except.bind_eq_ok.1 h
  obtain ⟨⟨hour, _⟩, -, h⟩ := Except.bind_eq_ok.1 h
  obtain ⟨_, -, h⟩ := Except.bind_eq_ok.1 h
  obtain ⟨⟨minute, _⟩, -, h⟩ := Except.bind_eq_ok.1 h
  obtain ⟨_, -, h⟩ := Except.bind_eq_ok.1 h
  obtain ⟨⟨second, _⟩, hsecond, h⟩ := Except.bind_eq_ok.1 h
  obtain ⟨⟨nanos, _⟩, hnanos, h⟩ := Except.bind_eq_ok.1 h
  obtain ⟨⟨ahead, rest⟩, -, h⟩ := Except.bind_eq_ok.1 h
  simp only at h
  split at h
  · cases h
  · exact valid_of_inUtc h (bounds_of_number hsecond).2 (fraction_lt hnanos)

end Moment

end GuestPorts
