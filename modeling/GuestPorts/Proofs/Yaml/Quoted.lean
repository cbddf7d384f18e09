/-
  GuestPorts/Proofs/Yaml/Quoted.lean
  ==================================
  **Quoted scalars are read back** (`readQuoted_of_spelled`, `spelled_single`, `spelled_double`).

  What is written between quotes is a sequence of words and gaps (`Spelled`).  In a word every
  character is spelled as the style has it, and the reader takes one step for each of them
  (`quotedPart_spell`).  A gap is one of spaces or one of line ends with an indentation
  behind it; the two never meet in single quotes, which is what that style is denied for.
  In double quotes line ends are part of a word, because they are escaped.
-/
import GuestPorts.Proofs.Text.Utf8
import GuestPorts.Proofs.Yaml.Gap
import Mathlib.Algebra.Group.Nat.Defs

namespace GuestPorts.Yaml

/-! ### Escapes -/

theorem hexDigit_digitChar {n : Nat} (h : n < 16) :
    hexDigit (Nat.digitChar n).toUpper = some n := by
  have hall : ∀ m : Fin 16, hexDigit (Nat.digitChar m.val).toUpper = some m.val := by decide
  exact hall ⟨n, h⟩

theorem length_hexCapitals (width n : Nat) : (hexCapitals width n).length = width := by
  induction width generalizing n with
  | zero => rfl
  | succ width ih => simp [hexCapitals, ih]

theorem hexNumber_hexCapitals {width n : Nat} (h : n < 16 ^ width) :
    hexNumber (hexCapitals width n) = some n := by
  induction width generalizing n with
  | zero =>
    rw [Nat.pow_zero, Nat.lt_one_iff] at h
    rw [h]
    rfl
  | succ width ih =>
    have hhigh : n / 16 < 16 ^ width := by
      rw [Nat.pow_succ, Nat.mul_comm] at h
      exact Nat.div_lt_of_lt_mul h
    have hdigit := hexDigit_digitChar (Nat.mod_lt n (by decide : 0 < 16))
    have hprefix := ih hhigh
    unfold hexNumber at hprefix ⊢
    rw [hexCapitals, List.foldlM_append, hprefix]
    simp [hdigit, Nat.div_add_mod]

/-- How a character is spelled between quotes. -/
def spell (single : Bool) (c : Char) : List Char :=
  if single then (if c = '\'' then ['\'', '\''] else [c]) else doubleEscape c

def quoteMark (single : Bool) : Char := if single then '\'' else '"'

/-- Whether a character belongs to a word: between double quotes everything but a space does. -/
def IsWord (single : Bool) (c : Char) : Prop :=
  if single then isInk c = true else c ≠ ' '

section Part

variable {t : List Char} {l k i fuel : Nat}

theorem quotedPart_spell_single {c : Char} (hc : isInk c = true) :
    quotedPart true (fuel + 1) ⟨spell true c ++ t, l, k, i⟩
      = quotedPart.add c (quotedPart true fuel
          ⟨t, l, k + (spell true c).length, i + (spell true c).length⟩) := by
  obtain ⟨hgap, hbreak⟩ := isInk_iff.1 hc
  by_cases hquote : c = '\''
  · subst hquote
    rfl
  · simp [spell, hquote, quotedPart, hgap, hbreak, Cursor.skip]

theorem readEscape_hex {e : Char} {width n : Nat} (hletter : letterEscapes.lookup e = none)
    (he : codeEscapes.lookup e = some width) (hn : n < 16 ^ width)
    (hvalid : n < 0xD800 ∨ 0xE000 ≤ n ∧ n ≤ 0x10FFFF) (t : List Char) :
    readEscape (e :: (hexCapitals width n ++ t)) = some (Char.ofNat n, width + 1) := by
  have htake : (hexCapitals width n ++ t).take width = hexCapitals width n :=
    List.take_left' (length_hexCapitals width n)
  have hrange : ¬((0xD800 ≤ n ∧ n < 0xE000) ∨ 0x10FFFF < n) := by omega
  simp [readEscape, hletter, he, htake, length_hexCapitals, hexNumber_hexCapitals hn, hrange]

theorem quotedPart_escape {r : List Char} {c : Char} {width : Nat}
    (hread : readEscape r = some (c, width)) (hbreak : r.head?.any isBreak = false) :
    quotedPart false (fuel + 1) ⟨'\\' :: r, l, k, i⟩
      = quotedPart.add c (quotedPart false fuel
          ⟨r.drop width, l, k + (width + 1), i + (width + 1)⟩) := by
  have hslash : isGap '\\' = false ∧ isBreak '\\' = false := by decide
  simp [quotedPart, hslash, hbreak, hread, Cursor.skip]

theorem quotedPart_letter {e c : Char} (he : letterEscapes.lookup e = some c)
    (hbreak : isBreak e = false) :
    quotedPart false (fuel + 1) ⟨'\\' :: e :: t, l, k, i⟩
      = quotedPart.add c (quotedPart false fuel ⟨t, l, k + 2, i + 2⟩) := by
  have hread : readEscape (e :: t) = some (c, 1) := by simp [readEscape, he]
  exact quotedPart_escape hread (by simpa using hbreak)

/-- A character behind a backslash and its number. -/
theorem quotedPart_hex {e : Char} {width : Nat} {c : Char} (he : (e, width) ∈ codeEscapes)
    (hn : c.toNat < 16 ^ width) :
    quotedPart false (fuel + 1) ⟨'\\' :: e :: hexCapitals width c.toNat ++ t, l, k, i⟩
      = quotedPart.add c (quotedPart false fuel ⟨t, l, k + (width + 2), i + (width + 2)⟩) := by
  have hletters : letterEscapes.lookup e = none ∧ codeEscapes.lookup e = some width ∧
      isBreak e = false := by
    simp only [codeEscapes, List.mem_cons, List.not_mem_nil, or_false, Prod.mk.injEq] at he
    rcases he with ⟨rfl, rfl⟩ | ⟨rfl, rfl⟩ | ⟨rfl, rfl⟩ <;> exact ⟨rfl, rfl, rfl⟩
  obtain ⟨hletter, hcode, hbreak⟩ := hletters
  have hvalid : c.toNat < 0xD800 ∨ 0xE000 ≤ c.toNat ∧ c.toNat ≤ 0x10FFFF := by
    have hc := Text.isValidChar_bounds c
    omega
  have hread := readEscape_hex hletter hcode hn hvalid t
  rw [Char.ofNat_toNat] at hread
  refine (quotedPart_escape hread (by simpa using hbreak)).trans ?_
  rw [List.drop_succ_cons, List.drop_left' (length_hexCapitals width c.toNat)]

theorem quotedPart_shown {c : Char} (hc : isInk c = true) (hquote : c ≠ '"')
    (hslash : c ≠ '\\') :
    quotedPart false (fuel + 1) ⟨c :: t, l, k, i⟩
      = quotedPart.add c (quotedPart false fuel ⟨t, l, k + 1, i + 1⟩) := by
  obtain ⟨hgap, hbreak⟩ := isInk_iff.1 hc
  simp [quotedPart, hgap, hbreak, hquote, hslash, Cursor.skip]

end Part

/-- The ways in which a character is spelled between double quotes. -/
theorem doubleEscape_cases (c : Char) :
    (∃ e, letterEscapes.lookup e = some c ∧ isBreak e = false ∧ doubleEscape c = ['\\', e]) ∨
    (isShown c = true ∧ isBreak c = false ∧ c ≠ '"' ∧ c ≠ '\\' ∧ doubleEscape c = [c]) ∨
    ∃ e width, (e, width) ∈ codeEscapes ∧ c.toNat < 16 ^ width ∧
      doubleEscape c = '\\' :: e :: hexCapitals width c.toNat := by
  unfold doubleEscape
  simp only
  split
  · next letter hletter =>
    left
    obtain ⟨before, after, hsplit, -⟩ := List.lookup_eq_some_iff.1 hletter
    have hmem : (c, letter) ∈ before ++ (c, letter) :: after :=
      List.mem_append_right before List.mem_cons_self
    rw [← hsplit] at hmem
    simp only [List.mem_cons, List.not_mem_nil, or_false, Prod.mk.injEq] at hmem
    rcases hmem with ⟨rfl, rfl⟩ | ⟨rfl, rfl⟩ | ⟨rfl, rfl⟩ | ⟨rfl, rfl⟩ | ⟨rfl, rfl⟩ | ⟨rfl, rfl⟩ |
      ⟨rfl, rfl⟩ | ⟨rfl, rfl⟩ | ⟨rfl, rfl⟩ | ⟨rfl, rfl⟩ | ⟨rfl, rfl⟩ | ⟨rfl, rfl⟩ | ⟨rfl, rfl⟩ |
      ⟨rfl, rfl⟩ <;> exact ⟨_, rfl, rfl, rfl⟩
  · next hnone =>
    right
    have hne : ∀ d, d ∈ ['"', '\\', '\n', '\u2028', '\u2029'] → c ≠ d := by
      rintro d hd rfl
      simp only [List.mem_cons, List.not_mem_nil, or_false] at hd
      rcases hd with rfl | rfl | rfl | rfl | rfl <;> cases hnone
    by_cases hshown : isShown c = true
    · left
      rw [if_pos hshown]
      refine ⟨hshown, ?_, hne _ (by simp), hne _ (by simp), rfl⟩
      cases hbreak : isBreak c with
      | false => rfl
      | true =>
        rcases isBreak_cases hshown hbreak with h | h | h <;> exact absurd h (hne _ (by simp))
    · right
      rw [if_neg hshown]
      have hbound := Text.isValidChar_bounds c
      split
      · next h => exact ⟨'x', 2, by decide, Nat.lt_succ_of_le h, rfl⟩
      · split
        · next h => exact ⟨'u', 4, by decide, Nat.lt_succ_of_le h, rfl⟩
        · exact ⟨'U', 8, by decide, by omega, rfl⟩

/-- **The reader takes one step for each character of a word.** -/
theorem quotedPart_spell {single : Bool} {c : Char} (hc : IsWord single c) {t : List Char}
    {l k i fuel : Nat} :
    quotedPart single (fuel + 1) ⟨spell single c ++ t, l, k, i⟩
      = quotedPart.add c (quotedPart single fuel
          ⟨t, l, k + (spell single c).length, i + (spell single c).length⟩) := by
  cases single with
  | true => exact quotedPart_spell_single hc
  | false =>
    have hspell : spell false c = doubleEscape c := rfl
    rw [hspell]
    rcases doubleEscape_cases c with ⟨e, he, hbreak, h⟩ | ⟨hshown, hbreak, hquote, hslash, h⟩ |
      ⟨e, width, he, hn, h⟩
    · rw [h]
      exact quotedPart_letter he hbreak
    · rw [h]
      exact quotedPart_shown (isInk_of_ne_space hshown hbreak hc) hquote hslash
    · rw [h, List.length_cons, List.length_cons, length_hexCapitals]
      exact quotedPart_hex he hn

theorem length_le_flatMap_spell (single : Bool) (w : List Char) :
    w.length ≤ (w.flatMap (spell single)).length := by
  induction w with
  | nil => exact Nat.le_refl 0
  | cons c w ih =>
    have hspell : 0 < (spell single c).length := by
      unfold spell
      split
      · split <;> exact Nat.succ_pos _
      · rcases doubleEscape_cases c with ⟨e, -, -, h⟩ | ⟨-, -, -, -, h⟩ | ⟨e, width, -, -, h⟩ <;>
          rw [h] <;> exact Nat.succ_pos _
    rw [List.flatMap_cons, List.length_append, List.length_cons]
    omega

theorem quotedPart_steps {single : Bool} {w : List Char} (hw : ∀ c ∈ w, IsWord single c)
    {t : List Char} {ending : PartEnd} {l k i fuel : Nat} (hfuel : w.length < fuel)
    (ht : ∀ k i fuel, quotedPart single (fuel + 1) ⟨t, l, k, i⟩ = some ([], ⟨t, l, k, i⟩, ending)) :
    quotedPart single fuel ⟨w.flatMap (spell single) ++ t, l, k, i⟩
      = some (w, ⟨t, l, k + (w.flatMap (spell single)).length,
          i + (w.flatMap (spell single)).length⟩, ending) := by
  induction w generalizing k i fuel with
  | nil =>
    obtain ⟨fuel, rfl⟩ := Nat.exists_eq_succ_of_ne_zero (Nat.ne_of_gt hfuel)
    exact ht k i fuel
  | cons c w ih =>
    obtain ⟨fuel, rfl⟩ := Nat.exists_eq_succ_of_ne_zero (Nat.ne_of_gt (Nat.zero_lt_of_lt hfuel))
    obtain ⟨hc, hw⟩ := List.forall_mem_cons.1 hw
    rw [List.flatMap_cons, List.append_assoc, quotedPart_spell hc,
      ih hw (Nat.lt_of_succ_lt_succ hfuel), List.length_append, Nat.add_assoc, Nat.add_assoc]
    rfl

/-- A word is read up to what ends it. -/
theorem exists_quotedPart_word {single : Bool} {w t : List Char} (hw : ∀ c ∈ w, IsWord single c)
    {ending : PartEnd} {x : Cursor} (hx : x.rest = w.flatMap (spell single) ++ t)
    (ht : ∀ (y : Cursor) fuel, y.rest = t →
      quotedPart single (fuel + 1) y = some ([], y, ending)) :
    ∃ y : Cursor, quotedPart single (x.rest.length + 1) x = some (w, y, ending) ∧ y.rest = t ∧
      y.line = x.line ∧ x.column ≤ y.column := by
  obtain ⟨rest, l, k, i⟩ := x
  subst hx
  have hlength : w.length < (w.flatMap (spell single) ++ t).length + 1 := by
    have hle := length_le_flatMap_spell single w
    rw [List.length_append]
    omega
  exact ⟨_, quotedPart_steps hw hlength fun _ _ fuel => ht _ fuel rfl, rfl, rfl,
    Nat.le_add_right k _⟩

theorem quotedPart_gap {single : Bool} {d : Char} (hd : isInk d = false) {t : List Char}
    (y : Cursor) (fuel : Nat) (hy : y.rest = d :: t) :
    quotedPart single (fuel + 1) y = some ([], y, .gap) := by
  have hblank : (isGap d || isBreak d) = true := by
    simp only [isInk, Bool.and_eq_false_iff, Bool.not_eq_false'] at hd
    exact Bool.or_eq_true_iff.2 hd
  simp only [quotedPart, hy, hblank, if_true]

theorem quotedPart_quote {single : Bool} {r : List Char} (hr : r.head? ≠ some '\'')
    (y : Cursor) (fuel : Nat) (hy : y.rest = quoteMark single :: r) :
    quotedPart single (fuel + 1) y = some ([], y, .quote) := by
  cases single with
  | true =>
    have hquote : (isGap '\'' || isBreak '\'') = false := by decide
    simp [quotedPart, hy, quoteMark, hquote, hr]
  | false =>
    have hquote : (isGap '"' || isBreak '"') = false := by decide
    simp [quotedPart, hy, quoteMark, hquote]

/-! ### Words and gaps -/

/-- What stands between quotes for a text: words, and gaps that are either of spaces or of line
    ends with an indentation behind them. -/
inductive Spelled (single : Bool) : List Char → List Char → Prop where
  | word {w : List Char} (hw : ∀ c ∈ w, IsWord single c) : Spelled single (w.flatMap (spell single)) w
  | spaces {w text cs : List Char} {n : Nat} (hw : ∀ c ∈ w, IsWord single c)
      (htext : Spelled single text cs) (hinked : Inked text) :
      Spelled single (w.flatMap (spell single) ++ (List.replicate (n + 1) ' ' ++ text))
        (w ++ (List.replicate (n + 1) ' ' ++ cs))
  | breaks {w bs text cs : List Char} {b : Char} {n : Nat} (hw : ∀ c ∈ w, IsWord single c)
      (hb : isShown b = true ∧ isBreak b = true) (hfeed : b ≠ '\n')
      (hbs : ∀ b ∈ bs, isShown b = true ∧ isBreak b = true) (htext : Spelled single text cs)
      (hinked : Inked text) (hcolumn : text ≠ [] → 0 < n) :
      Spelled single
        (w.flatMap (spell single) ++ b :: (bs ++ (List.replicate n ' ' ++ text)))
        (w ++ b :: (bs ++ cs))

theorem isInk_quoteMark (single : Bool) : isInk (quoteMark single) = true := by
  cases single <;> rfl

theorem quoteMark_ne (single : Bool) : quoteMark single ≠ '-' ∧ quoteMark single ≠ '.' := by
  cases single <;> decide

theorem readQuoted_last {single : Bool} {w r : List Char} (hw : ∀ c ∈ w, IsWord single c)
    (hr : r.head? ≠ some '\'') {x : Cursor}
    (hx : x.rest = w.flatMap (spell single) ++ quoteMark single :: r)
    (hcolumn : w ≠ [] → 0 < x.column) (fuel : Nat) :
    ∃ y : Cursor, readQuoted single (fuel + 1) x = some ⟨w, y, false⟩ ∧ y.rest = r ∧
      y.line = x.line := by
  have hmarker : x.atMarker '-' = false ∧ x.atMarker '.' = false := by
    cases w with
    | nil =>
      obtain ⟨hdash, hdot⟩ := quoteMark_ne single
      exact ⟨Cursor.atMarker_of_ne hx hdash, Cursor.atMarker_of_ne hx hdot⟩
    | cons c w =>
      have hpos := hcolumn (List.cons_ne_nil c w)
      exact ⟨Cursor.atMarker_of_column_pos hpos _, Cursor.atMarker_of_column_pos hpos _⟩
  have hne : x.rest ≠ [] := by simp [hx]
  obtain ⟨y, hpart, hy, hline, -⟩ := exists_quotedPart_word hw hx (quotedPart_quote hr)
  refine ⟨y.skip 1, ?_, ?_, hline⟩
  · simp [readQuoted, hmarker, hne, hpart]
  · simp [Cursor.skip, hy]

/-- A word is read, then the gap behind it, then what follows. -/
theorem readQuoted_word {single : Bool} {w t : List Char} {d : Char}
    (hw : ∀ c ∈ w, IsWord single c) (hd : isInk d = false) {x : Cursor}
    (hx : x.rest = w.flatMap (spell single) ++ d :: t) (hcolumn : 0 < x.column) :
    ∃ y : Cursor, y.rest = d :: t ∧ y.line = x.line ∧ x.column ≤ y.column ∧
      ∀ fuel gap more, readGap 0 [] none (y.rest.length + 1) y = some gap →
        readQuoted single fuel gap.cursor = some more →
        readQuoted single (fuel + 1) x
          = some ⟨w ++ (gap.text ++ more.text), more.cursor, more.broken⟩ := by
  have hmarker := fun mark => Cursor.atMarker_of_column_pos hcolumn mark
  have hne : x.rest ≠ [] := by simp [hx]
  obtain ⟨y, hpart, hy, hline, hle⟩ := exists_quotedPart_word hw hx (quotedPart_gap hd)
  refine ⟨y, hy, hline, hle, ?_⟩
  intro fuel gap more hgap hmore
  simp [readQuoted, hmarker, hne, hpart, hgap, hmore]

/-- **What is spelled between quotes is read back**, up to the closing quote. -/
theorem readQuoted_of_spelled {single : Bool} {text cs r : List Char}
    (h : Spelled single text cs) (hr : r.head? ≠ some '\'') {x : Cursor} {fuel : Nat}
    (hfuel : text.length < fuel) (hx : x.rest = text ++ quoteMark single :: r)
    (hcolumn : text ≠ [] → 0 < x.column) :
    ∃ y : Cursor, readQuoted single fuel x = some ⟨cs, y, false⟩ ∧ y.rest = r ∧
      x.line ≤ y.line := by
  have hend : Inked (quoteMark single :: r) := inked_cons.2 (isInk_quoteMark single)
  obtain ⟨fuel, rfl⟩ := Nat.exists_eq_succ_of_ne_zero (Nat.ne_of_gt (Nat.zero_lt_of_lt hfuel))
  induction h generalizing x fuel with
  | @word w hw =>
    have hpos : w ≠ [] → 0 < x.column := by
      intro hne
      apply hcolumn
      intro hnil
      have hle := length_le_flatMap_spell single w
      rw [hnil] at hle
      exact hne (List.eq_nil_of_length_eq_zero (Nat.le_zero.1 hle))
    obtain ⟨y, hread, hy, hline⟩ := readQuoted_last hw hr hx hpos fuel
    exact ⟨y, hread, hy, Nat.le_of_eq hline.symm⟩
  | @spaces w text cs n hw htext hinked ih =>
    simp only [List.length_append, List.length_replicate] at hfuel
    obtain ⟨fuel, rfl⟩ : ∃ m, fuel = m + 1 := ⟨fuel - 1, by omega⟩
    rw [List.append_assoc, List.append_assoc] at hx
    obtain ⟨y, hy, hline, hle, hread⟩ :=
      readQuoted_word hw (d := ' ') (by decide) hx (hcolumn (by simp))
    obtain ⟨z, hgap, hz, hline', hcolumn'⟩ :=
      exists_readGap_spaces (n := n + 1) (hinked.append hend) hy 0
    obtain ⟨last, hmore, hlast, hle'⟩ := ih hz (fun _ => by omega) fuel (by omega)
    exact ⟨last, hread _ _ _ hgap hmore, hlast, by omega⟩
  | @breaks w bs text cs b n hw hb hfeed hbs htext hinked hindent ih =>
    simp only [List.length_append, List.length_replicate, List.length_cons] at hfuel
    obtain ⟨fuel, rfl⟩ : ∃ m, fuel = m + 1 := ⟨fuel - 1, by omega⟩
    rw [List.append_assoc, List.cons_append, List.append_assoc, List.append_assoc] at hx
    have hblank : isInk b = false := by simp [isInk, hb.2]
    obtain ⟨y, hy, hline, hle, hread⟩ := readQuoted_word hw hblank hx (hcolumn (by simp))
    obtain ⟨z, hgap, hz, hline', hcolumn'⟩ :=
      exists_readGap_breaks (hinked.append hend) hb hbs hy 0
    have hfold : foldBreaks [b] bs = b :: bs := by
      simp [foldBreaks, hfeed]
    rw [hfold] at hgap
    obtain ⟨last, hmore, hlast, hle'⟩ := ih hz (by rwa [hcolumn']) fuel (by omega)
    exact ⟨last, hread _ _ _ hgap hmore, hlast, by omega⟩

/-- A quoted scalar is a token, whatever stands behind its closing quote but for another. -/
theorem exists_quotedToken {single : Bool} {text cs r : List Char} (h : Spelled single text cs)
    (hr : r.head? ≠ some '\'') {x : Cursor}
    (hx : x.rest = quoteMark single :: (text ++ quoteMark single :: r)) :
    ∃ y : Cursor, Scan.quotedToken single x
        = some (.scalar (if single then .single else .double) cs, y, false) ∧
      y.rest = r ∧ x.line ≤ y.line := by
  have hrest : (x.skip 1).rest = text ++ quoteMark single :: r := by simp [Cursor.skip, hx]
  have hfuel : text.length < x.rest.length + 1 := by
    rw [hx, List.length_cons, List.length_append]
    omega
  obtain ⟨y, hread, hy, hline⟩ := readQuoted_of_spelled h hr hfuel hrest fun _ => Nat.succ_pos _
  refine ⟨y, ?_, hy, hline⟩
  simp [Scan.quotedToken, hread]

/-! ### What is written between quotes -/

section Pairs

variable {p q : Char → Bool}

theorem hasPair_of_append {xs ys : List Char} (h : hasPair p q (xs ++ ys) = false) :
    hasPair p q ys = false := by
  induction xs with
  | nil => exact h
  | cons x xs ih =>
    apply ih
    rw [List.cons_append] at h
    cases hzs : xs ++ ys with
    | nil => rfl
    | cons z zs =>
      rw [hzs, hasPair, Bool.or_eq_false_iff] at h
      exact h.2

/-- Behind characters of the first kind there is none of the second. -/
theorem eq_false_of_hasPair {front r : List Char} {c : Char} (hfront : ∀ d ∈ front, p d = true)
    (hne : front ≠ []) (h : hasPair p q (front ++ c :: r) = false) : q c = false := by
  rw [← List.dropLast_concat_getLast hne, List.append_assoc] at h
  have hpair := hasPair_of_append h
  rw [List.singleton_append, hasPair, hfront _ (List.getLast_mem hne), Bool.true_and,
    Bool.or_eq_false_iff] at hpair
  exact hpair.1

end Pairs

theorem flatMap_spell_spaces (single : Bool) (n : Nat) :
    (List.replicate n ' ').flatMap (spell single) = List.replicate n ' ' := by
  induction n with
  | zero => rfl
  | succ n ih =>
    rw [List.replicate_succ, List.flatMap_cons, ih]
    cases single <;> rfl

theorem inked_spell {single : Bool} {c : Char} (hc : IsWord single c) (t : List Char) :
    Inked (spell single c ++ t) := by
  cases single with
  | true =>
    by_cases hquote : c = '\''
    · rw [hquote]
      exact inked_cons.2 (by decide)
    · simp only [spell, hquote, if_true, if_false]
      exact inked_cons.2 hc
  | false =>
    have hspell : spell false c = doubleEscape c := rfl
    rw [hspell]
    rcases doubleEscape_cases c with ⟨e, -, -, h⟩ | ⟨hshown, hbreak, -, -, h⟩ | ⟨e, width, -, -, h⟩
    · rw [h]
      exact inked_cons.2 (by decide)
    · rw [h]
      exact inked_cons.2 (isInk_of_ne_space hshown hbreak hc)
    · rw [h]
      exact inked_cons.2 (by decide)

/-- **Any text can stand between double quotes.** -/
theorem spelled_double (cs : List Char) : Spelled false (cs.flatMap (spell false)) cs := by
  obtain ⟨length, hlength⟩ : ∃ n, cs.length < n := ⟨_, Nat.lt_succ_self _⟩
  induction length generalizing cs with
  | zero => exact absurd hlength (Nat.not_lt_zero _)
  | succ length ih =>
    obtain ⟨w, back, rfl, hw, hback⟩ := exists_span (fun c => c ≠ ' ') cs
    obtain ⟨n, rest, rfl, hrest⟩ := exists_spaces back
    have hword : ∀ c ∈ w, IsWord false c := by
      intro c hc
      have hne : c ≠ ' ' := of_decide_eq_true (hw c hc)
      exact hne
    cases n with
    | zero =>
      cases rest with
      | nil =>
        rw [List.replicate_zero, List.append_nil, List.append_nil]
        exact .word hword
      | cons c rest =>
        have hspace : c = ' ' := by simpa using hback c rfl
        exact absurd (congrArg some hspace) hrest
    | succ n =>
      rw [List.flatMap_append, List.flatMap_append, flatMap_spell_spaces]
      simp only [List.length_append, List.length_replicate] at hlength
      refine .spaces hword (ih rest (by omega)) ?_
      cases rest with
      | nil => exact inked_nil
      | cons c rest =>
        have hword : IsWord false c := fun hspace => hrest (congrArg some hspace)
        exact inked_spell hword _

theorem singleText_word {n : Nat} {w : List Char} (hw : ∀ c ∈ w, isInk c = true)
    (back : List Char) :
    singleText n false (w ++ back) = w.flatMap (spell true) ++ singleText n false back := by
  induction w with
  | nil => rfl
  | cons c w ih =>
    obtain ⟨hc, hw⟩ := List.forall_mem_cons.1 hw
    simp [singleText, (isInk_iff.1 hc).2, spell, ih hw]

theorem singleText_spaces (n k : Nat) (back : List Char) :
    singleText n false (List.replicate k ' ' ++ back)
      = List.replicate k ' ' ++ singleText n false back := by
  induction k with
  | zero => rfl
  | succ k ih =>
    have hspace : isBreak ' ' = false := by decide
    simp [List.replicate_succ, singleText, hspace, ih]

theorem singleText_breaks {n : Nat} {bs : List Char} (hbs : ∀ b ∈ bs, isBreak b = true)
    (back : List Char) : singleText n true (bs ++ back) = bs ++ singleText n true back := by
  induction bs with
  | nil => rfl
  | cons b bs ih =>
    obtain ⟨hb, hbs⟩ := List.forall_mem_cons.1 hbs
    simp [singleText, hb, ih hbs]

theorem singleText_indent {n : Nat} {c : Char} (hc : isBreak c = false) (back : List Char) :
    singleText n true (c :: back) = List.replicate n ' ' ++ singleText n false (c :: back) := by
  simp [singleText, hc]

theorem inked_singleText {n : Nat} {cs : List Char} (hcs : Inked cs) :
    Inked (singleText n false cs) := by
  cases cs with
  | nil => exact inked_nil
  | cons c cs =>
    have hword : IsWord true c := inked_cons.1 hcs
    have hstep := singleText_word (n := n) (w := [c]) (by simpa using inked_cons.1 hcs) cs
    rw [List.singleton_append] at hstep
    rw [hstep, List.flatMap_cons, List.flatMap_nil, List.append_nil]
    exact inked_spell hword _

/-- What single quotes ask of a text: it is shown as itself, has no line feed, and no space of it
    is next to the end of a line. -/
structure FitsSingle (cs : List Char) : Prop where
  shown : ∀ c ∈ cs, isShown c = true
  feed : '\n' ∉ cs
  before : hasPair (fun c => c = ' ') isBreak cs = false
  after : hasPair isBreak (fun c => c = ' ') cs = false

theorem FitsSingle.of_append {xs ys : List Char} (h : FitsSingle (xs ++ ys)) : FitsSingle ys where
  shown := fun c hc => h.shown c (List.mem_append_right xs hc)
  feed := fun hfeed => h.feed (List.mem_append_right xs hfeed)
  before := hasPair_of_append h.before
  after := hasPair_of_append h.after

/-- Behind spaces a word starts, or the text ends. -/
theorem FitsSingle.inked_of_spaces {k : Nat} {rest : List Char} (hk : k ≠ 0)
    (h : FitsSingle (List.replicate k ' ' ++ rest)) (hrest : rest.head? ≠ some ' ') :
    Inked rest := by
  cases rest with
  | nil => exact inked_nil
  | cons c rest =>
    have hshown := h.of_append.shown c List.mem_cons_self
    have hfront : ∀ d ∈ List.replicate k ' ', decide (d = ' ') = true := by
      intro d hd
      exact decide_eq_true (List.eq_of_mem_replicate hd)
    have hbreak := eq_false_of_hasPair hfront (by simpa using hk) h.before
    exact inked_cons.2 (isInk_of_ne_space hshown hbreak fun hspace => hrest (congrArg some hspace))

/-- Behind line ends a word starts, or the text ends. -/
theorem FitsSingle.inked_of_breaks {bs rest : List Char} (hbs : ∀ b ∈ bs, isBreak b = true)
    (hne : bs ≠ []) (h : FitsSingle (bs ++ rest)) (hrest : ∀ c ∈ rest.head?, isBreak c = false) :
    Inked rest := by
  cases rest with
  | nil => exact inked_nil
  | cons c rest =>
    have hshown := h.of_append.shown c List.mem_cons_self
    have hspace := eq_false_of_hasPair hbs hne h.after
    exact inked_cons.2 (isInk_of_ne_space hshown (hrest c rfl) (of_decide_eq_false hspace))

/-- **A text that fits into single quotes is spelled there.** -/
theorem spelled_single {n : Nat} (hn : 0 < n) {cs : List Char} (h : FitsSingle cs) :
    Spelled true (singleText n false cs) cs := by
  obtain ⟨length, hlength⟩ : ∃ n, cs.length < n := ⟨_, Nat.lt_succ_self _⟩
  induction length generalizing cs with
  | zero => exact absurd hlength (Nat.not_lt_zero _)
  | succ length ih =>
    obtain ⟨w, back, rfl, hw, hback⟩ := exists_span isInk cs
    rw [singleText_word hw]
    have htail := h.of_append
    cases back with
    | nil =>
      rw [singleText, List.append_nil, List.append_nil]
      exact .word hw
    | cons d back =>
      have hblank : isInk d = false := hback d rfl
      have hshown := htail.shown d List.mem_cons_self
      rw [List.length_append] at hlength
      cases hbreak : isBreak d with
      | false =>
        -- the gap is one of spaces
        obtain ⟨k, rest, hsplit, hrest⟩ := exists_spaces (d :: back)
        obtain ⟨k, rfl⟩ : ∃ m, k = m + 1 := by
          apply Nat.exists_eq_succ_of_ne_zero
          rintro rfl
          rw [List.replicate_zero, List.nil_append] at hsplit
          rw [← hsplit] at hrest
          have hink := isInk_of_ne_space hshown hbreak fun hspace => hrest (congrArg some hspace)
          rw [hink] at hblank
          cases hblank
        rw [hsplit] at htail hlength ⊢
        rw [List.length_append, List.length_replicate] at hlength
        rw [singleText_spaces]
        have hinked := htail.inked_of_spaces (Nat.succ_ne_zero k) hrest
        exact .spaces hw (ih htail.of_append (by omega)) (inked_singleText hinked)
      | true =>
        -- the gap is one of line ends
        obtain ⟨bs, rest, rfl, hbs, hrest⟩ := exists_span isBreak back
        have hall : ∀ b ∈ d :: bs, isBreak b = true := List.forall_mem_cons.2 ⟨hbreak, hbs⟩
        have hne : d ≠ '\n' := fun hfeed => htail.feed (hfeed ▸ List.mem_cons_self)
        have hboth : ∀ b ∈ bs, isShown b = true ∧ isBreak b = true := by
          intro b hb
          exact ⟨htail.shown b (List.mem_cons_of_mem d (List.mem_append_left rest hb)), hbs b hb⟩
        rw [← List.cons_append] at htail
        have hinked := htail.inked_of_breaks hall (List.cons_ne_nil d bs) hrest
        have hmore : Spelled true (singleText n false rest) rest := by
          refine ih htail.of_append ?_
          rw [List.length_cons, List.length_append] at hlength
          omega
        have hstep : singleText n false (d :: (bs ++ rest)) = d :: singleText n true (bs ++ rest) := by
          simp [singleText, hbreak]
        rw [hstep, singleText_breaks hbs]
        cases rest with
        | nil =>
          exact .breaks (n := 0) hw ⟨hshown, hbreak⟩ hne hboth hmore inked_nil (fun h => absurd rfl h)
        | cons c rest =>
          rw [singleText_indent (hrest c rfl)]
          exact .breaks hw ⟨hshown, hbreak⟩ hne hboth hmore (inked_singleText hinked) fun _ => hn

end GuestPorts.Yaml
