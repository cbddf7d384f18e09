/-
  GuestPorts/Proofs/Text/Blank.lean
  =================================
  **Trimming** takes nothing from a text without blanks at its ends, and so nothing from a
  text that was trimmed before (`trim_trim`).
-/
import GuestPorts.Text.Basic
import GuestPorts.Proofs.Text.Split
import Mathlib.Data.List.DropRight

namespace GuestPorts.Text

theorem isBlank_of_isDigit {c : Char} (h : isDigit c = true) : isBlank c = false := by
  have hbounds : 48 ≤ c.toNat ∧ c.toNat ≤ 57 := by
    simpa [isDigit, Char.le_def, UInt32.le_iff_toNat_le] using h
  rw [Bool.eq_false_iff]
  intro hblank
  simp only [isBlank, Bool.or_eq_true, Bool.and_eq_true, decide_eq_true_eq, beq_iff_eq] at hblank
  omega

theorem isPrefix_trimEnd (cs : List Char) : trimEnd cs <+: cs := List.rdropWhile_prefix isBlank cs

theorem trim_infix (cs : List Char) : trim cs <:+: cs :=
  (isPrefix_trimEnd (trimStart cs)).isInfix.trans (List.dropWhile_suffix isBlank).isInfix

theorem trimStart_eq_self {cs : List Char} (h : ∀ c ∈ cs.head?, isBlank c = false) :
    trimStart cs = cs := by
  cases cs with
  | nil => rfl
  | cons c r =>
    have hc : isBlank c = false := h c rfl
    unfold trimStart
    rw [List.dropWhile_cons_of_neg (by simp [hc])]

theorem isBlank_head?_trimStart (cs : List Char) : ∀ c ∈ (trimStart cs).head?, isBlank c = false := by
  intro c hc
  have hnot := List.head?_dropWhile_not isBlank cs
  unfold trimStart at hc
  rw [Option.mem_def.1 hc] at hnot
  simpa using hnot

/-- A text without any blank is trimmed. -/
theorem trim_eq_self {cs : List Char} (h : ∀ c ∈ cs, isBlank c = false) : trim cs = cs := by
  have hreverse : trimStart cs.reverse = cs.reverse := by
    apply trimStart_eq_self
    intro c hc
    exact h c (List.mem_reverse.1 (List.mem_of_mem_head? hc))
  have hstart : trimStart cs = cs := trimStart_eq_self fun c hc => h c (List.mem_of_mem_head? hc)
  unfold trim trimEnd
  rw [hstart]
  unfold trimStart at hreverse
  rw [hreverse, List.reverse_reverse]

/-- **Trimming twice is trimming once.** -/
theorem trim_trim (cs : List Char) : trim (trim cs) = trim cs := by
  have hstart : trimStart (trim cs) = trim cs := by
    apply trimStart_eq_self
    intro c hc
    -- what is left of the front is the front, unless nothing is left
    obtain ⟨back, hback⟩ := isPrefix_trimEnd (trimStart cs)
    apply isBlank_head?_trimStart cs c
    rw [← hback]
    exact List.mem_head?_append_of_mem_head? hc
  calc trim (trim cs) = trimEnd (trimStart (trim cs)) := rfl
    _ = trimEnd (trim cs) := by rw [hstart]
    _ = trim cs := List.rdropWhile_idempotent isBlank (trimStart cs)

theorem trim_eq_nil_iff {cs : List Char} : trim cs = [] ↔ ∀ c ∈ cs, isBlank c = true := by
  constructor
  · intro h c hc
    have hall : ∀ c ∈ trimStart cs, isBlank c = true := List.rdropWhile_eq_nil_iff.1 h
    obtain ⟨front, hfront, hcs⟩ := exists_blank_append_trimStart cs
    rw [hcs] at hc
    rcases List.mem_append.1 hc with hmem | hmem
    · exact List.all_eq_true.1 hfront c hmem
    · exact hall c hmem
  · intro h
    unfold trim trimStart
    rw [List.dropWhile_eq_nil_iff.2 h]
    rfl

theorem trimStart_eq_nil_of_trim {cs : List Char} (h : trim cs = []) : trimStart cs = [] :=
  List.dropWhile_eq_nil_iff.2 (trim_eq_nil_iff.1 h)

theorem trim_eq_trimEnd {cs : List Char} (h : trimStart cs = cs) : trim cs = trimEnd cs := by
  unfold trim
  rw [h]

/-- The back is trimmed up to the last character that is not blank. -/
theorem trimEnd_append (xs : List Char) {ys : List Char} (h : trimEnd ys ≠ []) :
    trimEnd (xs ++ ys) = xs ++ trimEnd ys := by
  unfold trimEnd at h ⊢
  have hne : (ys.reverse.dropWhile isBlank).isEmpty = false := by
    rw [List.isEmpty_eq_false_iff]
    intro hnil
    exact h (by rw [hnil, List.reverse_nil])
  rw [List.reverse_append, List.dropWhile_append, hne]
  simp

theorem trimEnd_append_of_blank {back : List Char} (h : isBlankText back = true) (cs : List Char) :
    trimEnd (cs ++ back) = trimEnd cs := by
  have hreverse : ∀ c ∈ back.reverse, isBlank c = true := fun c hc =>
    List.all_eq_true.1 h c (List.mem_reverse.1 hc)
  unfold trimEnd
  rw [List.reverse_append, List.dropWhile_append_of_pos hreverse]

/-- Only blanks are dropped at the back. -/
theorem exists_trimEnd_append_blank (cs : List Char) :
    ∃ back, isBlankText back = true ∧ cs = trimEnd cs ++ back := by
  obtain ⟨front, hfront, hcs⟩ := exists_blank_append_trimStart cs.reverse
  refine ⟨front.reverse, ?_, ?_⟩
  · unfold isBlankText
    rwa [List.all_reverse]
  · have hreverse := congrArg List.reverse hcs
    rwa [List.reverse_append, List.reverse_reverse] at hreverse

/-- Only blanks are dropped at the ends. -/
theorem exists_blanks_around_trim (cs : List Char) :
    ∃ front back, isBlankText front = true ∧ isBlankText back = true ∧
      cs = front ++ trim cs ++ back := by
  obtain ⟨front, hfront, hcs⟩ := exists_blank_append_trimStart cs
  obtain ⟨back, hback, hrest⟩ := exists_trimEnd_append_blank (trimStart cs)
  refine ⟨front, back, hfront, hback, ?_⟩
  rw [List.append_assoc, trim, ← hrest]
  exact hcs

/-- Trimming loses nothing but blanks. -/
theorem count_trim {c : Char} (hc : isBlank c = false) (cs : List Char) :
    (trim cs).count c = cs.count c := by
  have hnone : ∀ blanks : List Char, isBlankText blanks = true → blanks.count c = 0 := by
    intro blanks hblanks
    rw [List.count_eq_zero]
    intro hmem
    have hblank := List.all_eq_true.1 hblanks c hmem
    rw [hc] at hblank
    cases hblank
  obtain ⟨front, back, hfront, hback, hcs⟩ := exists_blanks_around_trim cs
  have hcount := congrArg (List.count c) hcs
  rw [List.count_append, List.count_append, hnone front hfront, hnone back hback] at hcount
  omega

/-- **Blanks around a text are trimmed away.** -/
theorem trim_append_of_blank {front back : List Char} (hfront : isBlankText front = true)
    (hback : isBlankText back = true) (cs : List Char) : trim (front ++ cs ++ back) = trim cs := by
  have hstart : trimStart (front ++ cs ++ back) = trimStart (cs ++ back) := by
    unfold trimStart
    rw [List.append_assoc, List.dropWhile_append_of_pos (List.all_eq_true.1 hfront)]
  unfold trim
  rw [hstart]
  by_cases hcs : trimStart cs = []
  · have hall : ∀ c ∈ cs ++ back, isBlank c = true := by
      intro c hc
      rcases List.mem_append.1 hc with hmem | hmem
      · exact List.dropWhile_eq_nil_iff.1 hcs c hmem
      · exact List.all_eq_true.1 hback c hmem
    have hboth : trimStart (cs ++ back) = [] := List.dropWhile_eq_nil_iff.2 hall
    rw [hcs, hboth]
  · have hkept : trimStart (cs ++ back) = trimStart cs ++ back := by
      unfold trimStart at hcs ⊢
      rw [List.dropWhile_append, if_neg (by simpa using hcs)]
    rw [hkept, trimEnd_append_of_blank hback]

theorem isBlankText_nil : isBlankText [] = true := rfl

theorem trim_trimStart (cs : List Char) : trim (trimStart cs) = trim cs := by
  obtain ⟨front, hfront, hcs⟩ := exists_blank_append_trimStart cs
  have htrim := trim_append_of_blank hfront isBlankText_nil (trimStart cs)
  rw [List.append_nil, ← hcs] at htrim
  exact htrim.symm

theorem trim_trimEnd (cs : List Char) : trim (trimEnd cs) = trim cs := by
  obtain ⟨back, hback, hcs⟩ := exists_trimEnd_append_blank cs
  have htrim := trim_append_of_blank isBlankText_nil hback (trimEnd cs)
  rw [List.nil_append, ← hcs] at htrim
  exact htrim.symm

/-! ### Around a character that is no blank -/

section Around

variable {c : Char} (hc : isBlank c = false)
include hc

theorem trimStart_append_cons (front rest : List Char) :
    trimStart (front ++ c :: rest) = trimStart front ++ c :: rest := by
  unfold trimStart
  rw [List.dropWhile_append, List.dropWhile_cons_of_neg (by simp [hc])]
  split
  · next h => rw [List.isEmpty_iff.1 h, List.nil_append]
  · rfl

theorem trimEnd_append_cons (front rest : List Char) :
    trimEnd (front ++ c :: rest) = front ++ c :: trimEnd rest := by
  have hreverse : (front ++ c :: rest).reverse = rest.reverse ++ c :: front.reverse := by simp
  have hstart := trimStart_append_cons hc rest.reverse front.reverse
  unfold trimStart at hstart
  unfold trimEnd
  rw [hreverse, hstart]
  simp

theorem trim_append_cons (front rest : List Char) :
    trim (front ++ c :: rest) = trimStart front ++ c :: trimEnd rest := by
  rw [trim, trimStart_append_cons hc, trimEnd_append_cons hc]

end Around

/-! ### Parts without blanks -/

section Parts

variable {part blanks : List Char} (hpart : ∀ c ∈ part, isBlank c = false)
  (hblanks : isBlankText blanks = true)
include hpart hblanks

theorem infix_blanks_append_iff (cs : List Char) : part <:+: blanks ++ cs ↔ part <:+: cs := by
  induction blanks with
  | nil => rw [List.nil_append]
  | cons b rest ih =>
    obtain ⟨hb, hrest⟩ : isBlank b = true ∧ isBlankText rest = true := by
      simpa [isBlankText] using hblanks
    have hmem : b ∉ part := fun h => by simp [hpart b h] at hb
    rw [List.cons_append, infix_cons_of_notMem_iff hmem]
    exact ih hrest

theorem infix_append_blanks_iff (cs : List Char) : part <:+: cs ++ blanks ↔ part <:+: cs := by
  have hpart' : ∀ c ∈ part.reverse, isBlank c = false := by simpa using hpart
  have hblanks' : isBlankText blanks.reverse = true := by rwa [isBlankText, List.all_reverse]
  rw [← List.reverse_infix, List.reverse_append, infix_blanks_append_iff hpart' hblanks',
    List.reverse_infix]

end Parts

/-- Trimming loses no part that has no blank in it. -/
theorem infix_trim_iff {part : List Char} (hpart : ∀ c ∈ part, isBlank c = false)
    (cs : List Char) : part <:+: trim cs ↔ part <:+: cs := by
  obtain ⟨front, back, hfront, hback, hcs⟩ := exists_blanks_around_trim cs
  conv_rhs => rw [hcs]
  rw [infix_append_blanks_iff hpart hback, infix_blanks_append_iff hpart hfront]

end GuestPorts.Text
