/-
  GuestPorts/Proofs/Json/Scalars.lean
  ===================================
  **Strings and numerals are read back from what is written for them**, whatever text stands
  behind them (`scalar_quote`, `scalar_number`).

  A string ends at its own quote, so anything may follow it.  A numeral ends where no digit,
  point or exponent goes on, so what follows must be none of these (`Ends`).
-/
import GuestPorts.Json.Number
import GuestPorts.Json.Document
import GuestPorts.Json.Reader
import GuestPorts.Proofs.Text.Decimal
import Mathlib.Tactic.SplitIfs

namespace GuestPorts.Json

open GuestPorts.Text (isDigit)

/-! ### Strings -/

theorem hexValue_digitChar {n : Nat} (h : n < 16) : hexValue (Nat.digitChar n) = some n := by
  revert n
  decide

theorem unicodeEscape_control {n : Nat} (h : n < 32) (rest : List Char) :
    unicodeEscape ('0' :: '0' :: Nat.digitChar (n / 16) :: Nat.digitChar (n % 16) :: rest)
      = some (.char (Char.ofNat n), rest) := by
  have hzero : hexValue '0' = some 0 := by decide
  have hhigh : hexValue (Nat.digitChar (n / 16)) = some (n / 16) := hexValue_digitChar (by omega)
  have hlow : hexValue (Nat.digitChar (n % 16)) = some (n % 16) := hexValue_digitChar (by omega)
  have hfour : fourHex ('0' :: '0' :: Nat.digitChar (n / 16) :: Nat.digitChar (n % 16) :: rest)
      = some (n, rest) := by
    simp only [fourHex, hzero, hhigh, hlow, Option.bind_eq_bind, Option.bind_some, Option.pure_def,
      Option.some.injEq, Prod.mk.injEq, and_true]
    omega
  have hsmall : n < 0xD800 := by omega
  simp [unicodeEscape, hfour, hsmall]

/-- One character of a string is one piece of it, however it is written. -/
theorem stringPieces_escape (fuel : Nat) (c : Char) (more : List Char) :
    stringPieces (fuel + 1) (escape c ++ more)
      = (stringPieces fuel more).map fun p => (.char c :: p.1, p.2) := by
  unfold escape
  split_ifs with hsign h8 h12 hn hr ht hcontrol
  · simp only [Bool.or_eq_true, decide_eq_true_eq] at hsign
    rcases hsign with rfl | rfl <;> cases h : stringPieces fuel more <;>
      simp [stringPieces, simpleEscape, h]
  · subst h8
    cases h : stringPieces fuel more <;> simp [stringPieces, simpleEscape, h]
  · subst h12
    cases h : stringPieces fuel more <;> simp [stringPieces, simpleEscape, h]
  · subst hn
    cases h : stringPieces fuel more <;> simp [stringPieces, simpleEscape, h]
  · subst hr
    cases h : stringPieces fuel more <;> simp [stringPieces, simpleEscape, h]
  · subst ht
    cases h : stringPieces fuel more <;> simp [stringPieces, simpleEscape, h]
  · have hescape := unicodeEscape_control hcontrol more
    rw [Char.ofNat_toNat] at hescape
    cases h : stringPieces fuel more <;> simp [stringPieces, hescape, h]
  · simp only [Bool.or_eq_true, decide_eq_true_eq, not_or] at hsign
    cases h : stringPieces fuel more <;> simp [stringPieces, hsign, hcontrol, h]

theorem escape_ne_nil (c : Char) : escape c ≠ [] := by
  unfold escape
  split_ifs <;> simp

theorem length_le_flatMap_escape (cs : List Char) : cs.length ≤ (cs.flatMap escape).length := by
  induction cs with
  | nil => simp
  | cons c r ih =>
    have hc := List.length_pos_iff.2 (escape_ne_nil c)
    simp only [List.flatMap_cons, List.length_append, List.length_cons]
    omega

theorem stringPieces_flatMap_escape {fuel : Nat} {cs : List Char} (h : cs.length < fuel)
    (rest : List Char) :
    stringPieces fuel (cs.flatMap escape ++ '"' :: rest) = some (cs.map .char, rest) := by
  induction cs generalizing fuel with
  | nil =>
    obtain ⟨fuel, rfl⟩ := Nat.exists_eq_succ_of_ne_zero (by omega : fuel ≠ 0)
    simp [stringPieces]
  | cons c r ih =>
    rw [List.length_cons] at h
    obtain ⟨fuel, rfl⟩ := Nat.exists_eq_succ_of_ne_zero (by omega : fuel ≠ 0)
    rw [List.flatMap_cons, List.append_assoc, stringPieces_escape, ih (by omega)]
    rfl

theorem textOfPieces_map_char (cs : List Char) : textOfPieces (cs.map .char) = some cs := by
  unfold textOfPieces
  induction cs with
  | nil => rfl
  | cons c r ih => simp [ih]

/-- **A string is read back from its quoted form.** -/
theorem scalar_quote (cs rest : List Char) :
    scalar (quote cs ++ rest) = (.string cs, some rest) := by
  have hfuel : cs.length < (cs.flatMap escape ++ '"' :: rest).length + 1 := by
    have := length_le_flatMap_escape cs
    rw [List.length_append]
    omega
  have hpieces := stringPieces_flatMap_escape hfuel rest
  have hquote : quote cs ++ rest = '"' :: (cs.flatMap escape ++ '"' :: rest) := by simp [quote]
  rw [hquote]
  simp only [scalar, hpieces, orBroken, stringDoc, textOfPieces_map_char]

/-! ### Numerals -/

/-- A run of digits that is not empty. -/
def IsDigits (ds : List Char) : Prop := ds ≠ [] ∧ ∀ c ∈ ds, isDigit c = true

/-- A numeral that JSON has: no digits are missing, and the whole part has no zero in front. -/
structure Numeral.Spelled (n : Numeral) : Prop where
  whole : IsDigits n.whole
  zero : n.whole.head? = some '0' → n.whole.length ≤ 1
  fraction : ∀ ds ∈ n.fraction, IsDigits ds
  exponent : ∀ e ∈ n.exponent, IsDigits e.2

/-- A text that does not go on with a numeral that stands before it. -/
def Ends (rest : List Char) : Prop :=
  ∀ c ∈ rest.head?, isDigit c = false ∧ c ≠ '.' ∧ c ≠ 'e' ∧ c ≠ 'E'

theorem someDigits_append {ds rest : List Char} (h : IsDigits ds)
    (hrest : ∀ c ∈ rest.head?, isDigit c = false) : someDigits (ds ++ rest) = some (ds, rest) := by
  have hstop : rest.takeWhile isDigit = [] ∧ rest.dropWhile isDigit = rest := by
    cases rest with
    | nil => exact ⟨rfl, rfl⟩
    | cons c r => simp [hrest c rfl]
  obtain ⟨c, r, rfl⟩ := List.exists_cons_of_ne_nil h.1
  unfold someDigits
  rw [List.takeWhile_append_of_pos h.2, List.dropWhile_append_of_pos h.2, hstop.1, hstop.2,
    List.append_nil]

/-- A fraction as it is written. -/
def fractionText : Option (List Char) → List Char
  | some ds => '.' :: ds
  | none => []

/-- An exponent as it is written. -/
def exponentText : Option (Bool × List Char) → List Char
  | some (true, ds) => 'e' :: '-' :: ds
  | some (false, ds) => 'e' :: ds
  | none => []

theorem exponentPart_append {e : Option (Bool × List Char)} (h : ∀ x ∈ e, IsDigits x.2)
    {rest : List Char} (hrest : Ends rest) :
    exponentPart (exponentText e ++ rest) = some (e, rest) := by
  match e with
  | none =>
    cases rest with
    | nil => rfl
    | cons c r =>
      obtain ⟨-, -, he, hE⟩ := hrest c rfl
      simp only [exponentText, List.nil_append, exponentPart]
      split
      · next heq => exact absurd (List.cons.inj heq).1 he
      · next heq => exact absurd (List.cons.inj heq).1 hE
      · rfl
  | some (true, ds) =>
    have hds : IsDigits ds := h _ rfl
    have hrun := someDigits_append hds fun c hc => (hrest c hc).1
    simp [exponentText, exponentPart, exponentDigits, hrun]
  | some (false, ds) =>
    have hds : IsDigits ds := h _ rfl
    have hrun := someDigits_append hds fun c hc => (hrest c hc).1
    obtain ⟨c, r, rfl⟩ := List.exists_cons_of_ne_nil hds.1
    have hc : isDigit c = true := hds.2 c List.mem_cons_self
    simp only [exponentText, List.cons_append, exponentPart, exponentDigits]
    rw [List.cons_append] at hrun
    split
    · next heq => cases (List.cons.inj heq).1; cases hc
    · next heq => cases (List.cons.inj heq).1; cases hc
    · simp [hrun]

theorem fractionPart_append {f : Option (List Char)} (h : ∀ ds ∈ f, IsDigits ds)
    {rest : List Char} (hrest : ∀ c ∈ rest.head?, isDigit c = false ∧ c ≠ '.') :
    fractionPart (fractionText f ++ rest) = some (f, rest) := by
  cases f with
  | none =>
    cases rest with
    | nil => rfl
    | cons c r =>
      simp only [fractionText, List.nil_append, fractionPart]
      split
      · next heq => exact absurd (List.cons.inj heq).1 (hrest c rfl).2
      · rfl
  | some ds =>
    have hrun := someDigits_append (h ds rfl) fun c hc => (hrest c hc).1
    simp [fractionText, fractionPart, hrun]

/-- What stands behind the whole part or the fraction of a numeral. -/
theorem ends_exponentText_append (e : Option (Bool × List Char)) {rest : List Char}
    (hrest : Ends rest) :
    ∀ c ∈ (exponentText e ++ rest).head?, isDigit c = false ∧ c ≠ '.' := by
  intro c hc
  match e with
  | none => exact ⟨(hrest c hc).1, (hrest c hc).2.1⟩
  | some (true, ds) => cases hc; decide
  | some (false, ds) => cases hc; decide

theorem numeral_append {n : Numeral} (h : n.Spelled) {rest : List Char} (hrest : Ends rest) :
    numeral n.negative (n.whole ++ (fractionText n.fraction ++ (exponentText n.exponent ++ rest)))
      = some (n, rest) := by
  have hbehind := ends_exponentText_append n.exponent hrest
  have hwhole : wholePart (n.whole ++ (fractionText n.fraction ++ (exponentText n.exponent ++ rest)))
      = some (n.whole, fractionText n.fraction ++ (exponentText n.exponent ++ rest)) := by
    have hstop : ∀ c ∈ (fractionText n.fraction ++ (exponentText n.exponent ++ rest)).head?,
        isDigit c = false := by
      intro c hc
      cases hf : n.fraction with
      | none => exact (hbehind c (by simpa [hf, fractionText] using hc)).1
      | some ds =>
        rw [hf] at hc
        cases hc
        decide
    have hrun := someDigits_append h.whole hstop
    have hzero : ¬ (n.whole.head? = some '0' ∧ 1 < n.whole.length) := fun hlong => by
      have := h.zero hlong.1
      omega
    simp [wholePart, hrun, hzero]
  simp [numeral, hwhole, fractionPart_append h.fraction hbehind, exponentPart_append h.exponent hrest]

theorem Numeral.toChars_eq (n : Numeral) :
    n.toChars = (if n.negative then ['-'] else []) ++ n.whole ++ fractionText n.fraction
      ++ exponentText n.exponent := by
  obtain ⟨negative, whole, f, e⟩ := n
  unfold toChars
  cases f <;> rcases e with - | ⟨- | -, ds⟩ <;> rfl

/-- A text from a digit on is read as a numeral. -/
theorem scalar_of_isDigit {c : Char} (h : isDigit c = true) (r : List Char) :
    scalar (c :: r) = orBroken .number (numeral false (c :: r)) := by
  unfold scalar
  split
  · next heq => cases heq
  · next heq => cases heq; cases h
  · next heq => cases heq; cases h
  · next heq => cases heq; cases h
  · next heq => cases heq; cases h
  · next heq => cases heq; cases h
  · next heq =>
    cases heq
    rw [if_pos h]

/-- **A numeral is read back as it is spelled.** -/
theorem scalar_number {n : Numeral} (h : n.Spelled) {rest : List Char} (hrest : Ends rest) :
    scalar (n.toChars ++ rest) = (.number n, some rest) := by
  have hread := numeral_append h hrest
  rw [n.toChars_eq]
  cases hsign : n.negative with
  | true =>
    rw [hsign] at hread
    simp [scalar, hread, orBroken]
  | false =>
    rw [hsign] at hread
    obtain ⟨c, r, hwhole⟩ := List.exists_cons_of_ne_nil h.whole.1
    have hc : isDigit c = true := h.whole.2 c (hwhole ▸ List.mem_cons_self)
    rw [hwhole] at hread ⊢
    simp only [Bool.false_eq_true, if_false, List.nil_append, List.append_assoc, List.cons_append]
      at hread ⊢
    rw [scalar_of_isDigit hc, hread]
    rfl

theorem Numeral.spelled_ofNat (k : Nat) : (Numeral.ofNat k).Spelled where
  whole := ⟨Text.digits_ne_nil k, List.all_eq_true.1 (Text.all_isDigit_digits k)⟩
  zero := fun h => by
    have hk : k = 0 := Text.head?_digits_eq_zero h
    subst hk
    rw [Numeral.ofNat, Text.digits]
    simp
  fraction := nofun
  exponent := nofun

end GuestPorts.Json
