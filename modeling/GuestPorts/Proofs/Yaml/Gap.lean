/-
  GuestPorts/Proofs/Yaml/Gap.lean
  ===============================
  **Places in a written text, and the gaps between its words.**

  A text that is shown as itself has one kind of blank, the space, and three kinds of line
  ends, each of which reads as itself (`Cursor.breakText_of_shown`).  So what a gap reads as is
  seen from its characters: spaces within a line count, those behind a line's end do not
  (`readGap_spaces`, `readGap_breaks`).
-/
import GuestPorts.Yaml.Printer
import GuestPorts.Yaml.Token

namespace GuestPorts.Yaml

/-! ### Characters -/

theorem eq_space_of_isGap {c : Char} (hshown : isShown c = true) (h : isGap c = true) : c = ' ' := by
  simp only [isGap, Bool.or_eq_true, decide_eq_true_eq] at h
  rcases h with rfl | rfl
  · rfl
  · exact absurd hshown (by decide)

theorem isBreak_cases {c : Char} (hshown : isShown c = true) (h : isBreak c = true) :
    c = '\n' ∨ c = '\u2028' ∨ c = '\u2029' := by
  simp only [isBreak, Bool.or_eq_true, decide_eq_true_eq] at h
  rcases h with (((rfl | rfl) | rfl) | rfl) | rfl
  · exact .inl rfl
  · exact absurd hshown (by decide)
  · exact absurd hshown (by decide)
  · exact .inr (.inl rfl)
  · exact .inr (.inr rfl)

theorem isGap_of_isBreak {c : Char} (h : isBreak c = true) : isGap c = false := by
  simp only [isBreak, Bool.or_eq_true, decide_eq_true_eq] at h
  rcases h with (((rfl | rfl) | rfl) | rfl) | rfl <;> rfl

/-- Neither a blank nor the end of a line. -/
def isInk (c : Char) : Bool := !isGap c && !isBreak c

theorem isInk_iff {c : Char} : isInk c = true ↔ isGap c = false ∧ isBreak c = false := by
  simp [isInk]

theorem isInk_of_ne_space {c : Char} (hshown : isShown c = true) (hbreak : isBreak c = false)
    (hne : c ≠ ' ') : isInk c = true := by
  apply isInk_iff.2
  refine ⟨?_, hbreak⟩
  cases hgap : isGap c with
  | false => rfl
  | true => exact absurd (eq_space_of_isGap hshown hgap) hne

/-- A text that starts with ink, if it starts at all. -/
def Inked (cs : List Char) : Prop := ∀ c ∈ cs.head?, isInk c = true

theorem inked_nil : Inked [] := nofun

theorem inked_cons {c : Char} {cs : List Char} : Inked (c :: cs) ↔ isInk c = true := by
  simp [Inked]

theorem Inked.append {cs rest : List Char} (hcs : Inked cs) (hrest : Inked rest) :
    Inked (cs ++ rest) := by
  cases cs with
  | nil => exact hrest
  | cons c cs => exact inked_cons.2 (inked_cons.1 hcs)

/-- A list taken apart where a property ends. -/
theorem exists_span {α : Type} (p : α → Bool) (xs : List α) :
    ∃ front back, xs = front ++ back ∧ (∀ x ∈ front, p x = true) ∧ ∀ x ∈ back.head?, p x = false := by
  refine ⟨xs.takeWhile p, xs.dropWhile p, List.takeWhile_append_dropWhile.symm, ?_, ?_⟩
  · exact List.all_eq_true.1 List.all_takeWhile
  · intro x hx
    have hnot := List.head?_dropWhile_not p xs
    rw [Option.mem_def.1 hx] at hnot
    exact hnot

theorem exists_spaces (cs : List Char) :
    ∃ n back, cs = List.replicate n ' ' ++ back ∧ back.head? ≠ some ' ' := by
  obtain ⟨front, back, rfl, hfront, hback⟩ := exists_span (fun c => c = ' ') cs
  refine ⟨front.length, back, ?_, ?_⟩
  · rw [← List.eq_replicate_of_mem fun c hc => of_decide_eq_true (hfront c hc)]
  · intro h
    have := hback ' ' h
    simp at this

/-! ### Places -/

namespace Cursor

variable {r : List Char} {l c i : Nat}

theorem skip_append (w : List Char) :
    (⟨w ++ r, l, c, i⟩ : Cursor).skip w.length = ⟨r, l, c + w.length, i + w.length⟩ := by
  simp [skip]

theorem nextLine_of_shown {b : Char} (hshown : isShown b = true) (hb : isBreak b = true) :
    (⟨b :: r, l, c, i⟩ : Cursor).nextLine = ⟨r, l + 1, 0, i + 1⟩ := by
  rcases isBreak_cases hshown hb with rfl | rfl | rfl <;> rfl

theorem breakText_of_shown {b : Char} (hshown : isShown b = true) (hb : isBreak b = true) :
    (⟨b :: r, l, c, i⟩ : Cursor).breakText = [b] := by
  rcases isBreak_cases hshown hb with rfl | rfl | rfl <;> rfl

/-- A marker of a document stands in the first column only. -/
theorem atMarker_of_column_pos {x : Cursor} (h : 0 < x.column) (mark : Char) :
    x.atMarker mark = false := by
  simp [atMarker, Nat.pos_iff_ne_zero.1 h]

theorem atMarker_of_ne {x : Cursor} {d mark : Char} (hx : x.rest = d :: r) (h : d ≠ mark) :
    x.atMarker mark = false := by
  simp [atMarker, hx, List.isPrefixOf, Ne.symm h]

end Cursor

/-! ### Gaps -/

section Gaps

variable {t : List Char} {l c i : Nat}

theorem readGap_inked (ht : Inked t) (indent : Nat) (spaces : List Char)
    (breaks : Option (List Char × List Char)) (fuel : Nat) :
    readGap indent spaces breaks (fuel + 1) ⟨t, l, c, i⟩
      = some (readGap.finish spaces breaks ⟨t, l, c, i⟩) := by
  cases t with
  | nil => rfl
  | cons d t =>
    obtain ⟨hgap, hbreak⟩ := isInk_iff.1 (inked_cons.1 ht)
    simp [readGap, hgap, hbreak]

theorem readGap_spaces (ht : Inked t) (indent : Nat) (spaces : List Char) {n fuel : Nat}
    (hfuel : n < fuel) :
    readGap indent spaces none fuel ⟨List.replicate n ' ' ++ t, l, c, i⟩
      = some ⟨spaces ++ List.replicate n ' ', false, ⟨t, l, c + n, i + n⟩⟩ := by
  induction n generalizing spaces fuel c i with
  | zero =>
    obtain ⟨fuel, rfl⟩ := Nat.exists_eq_succ_of_ne_zero (Nat.ne_of_gt hfuel)
    exact (readGap_inked ht indent spaces none fuel).trans (by simp [readGap.finish])
  | succ n ih =>
    obtain ⟨fuel, rfl⟩ := Nat.exists_eq_succ_of_ne_zero (Nat.ne_of_gt (Nat.zero_lt_of_lt hfuel))
    have hrest := ih (c := c + 1) (i := i + 1) (spaces ++ [' ']) (Nat.lt_of_succ_lt_succ hfuel)
    have hstep : readGap indent spaces none (fuel + 1) ⟨List.replicate (n + 1) ' ' ++ t, l, c, i⟩
        = readGap indent (spaces ++ [' ']) none fuel
          ⟨List.replicate n ' ' ++ t, l, c + 1, i + 1⟩ := rfl
    rw [hstep, hrest, List.append_assoc, List.replicate_succ, List.singleton_append,
      Nat.add_assoc c, Nat.add_assoc i, Nat.add_comm 1]

/-- Behind the end of a line spaces do not count. -/
theorem readGap_indent (ht : Inked t) (indent : Nat) (spaces : List Char)
    (breaks : List Char × List Char) {n fuel : Nat} (hfuel : n < fuel) :
    readGap indent spaces (some breaks) fuel ⟨List.replicate n ' ' ++ t, l, c, i⟩
      = some ⟨foldBreaks breaks.1 breaks.2, true, ⟨t, l, c + n, i + n⟩⟩ := by
  induction n generalizing fuel c i with
  | zero =>
    obtain ⟨fuel, rfl⟩ := Nat.exists_eq_succ_of_ne_zero (Nat.ne_of_gt hfuel)
    exact readGap_inked ht indent spaces (some breaks) fuel
  | succ n ih =>
    obtain ⟨fuel, rfl⟩ := Nat.exists_eq_succ_of_ne_zero (Nat.ne_of_gt (Nat.zero_lt_of_lt hfuel))
    have hrest := ih (c := c + 1) (i := i + 1) (Nat.lt_of_succ_lt_succ hfuel)
    have hstep : readGap indent spaces (some breaks) (fuel + 1)
          ⟨List.replicate (n + 1) ' ' ++ t, l, c, i⟩
        = readGap indent spaces (some breaks) fuel
          ⟨List.replicate n ' ' ++ t, l, c + 1, i + 1⟩ := by
      simp [readGap, List.replicate_succ, isGap, Cursor.skip]
    rw [hstep, hrest, Nat.add_assoc c, Nat.add_assoc i, Nat.add_comm 1]

/-- Line ends with an indentation behind them, after a line has ended. -/
theorem readGap_more (ht : Inked t) (indent : Nat) (spaces first : List Char) {n fuel : Nat}
    {bs : List Char} (hbs : ∀ b ∈ bs, isShown b = true ∧ isBreak b = true) (more : List Char)
    (hfuel : bs.length + n < fuel) :
    readGap indent spaces (some (first, more)) fuel ⟨bs ++ (List.replicate n ' ' ++ t), l, 0, i⟩
      = some ⟨foldBreaks first (more ++ bs), true,
          ⟨t, l + bs.length, n, i + bs.length + n⟩⟩ := by
  induction bs generalizing more fuel l i with
  | nil =>
    rw [List.nil_append, readGap_indent ht indent spaces (first, more) (by simpa using hfuel)]
    simp
  | cons b bs ih =>
    obtain ⟨fuel, rfl⟩ := Nat.exists_eq_succ_of_ne_zero (Nat.ne_of_gt (Nat.zero_lt_of_lt hfuel))
    obtain ⟨⟨hshown, hb⟩, hbs⟩ := List.forall_mem_cons.1 hbs
    have hless : bs.length + n < fuel := by
      rw [List.length_cons] at hfuel
      omega
    have hrest := ih (l := l + 1) (i := i + 1) hbs (more ++ [b]) hless
    rw [List.cons_append, readGap]
    simp only [isGap_of_isBreak hb, hb, Cursor.breakText_of_shown hshown hb,
      Cursor.nextLine_of_shown hshown hb, Bool.false_eq_true, if_false, if_true]
    rw [hrest, List.length_cons, List.append_assoc, List.singleton_append]
    congr 3 <;> omega

/-- **A gap within a line** reads as its spaces. -/
theorem exists_readGap_spaces {x : Cursor} {n : Nat} (ht : Inked t)
    (hx : x.rest = List.replicate n ' ' ++ t) (indent : Nat) :
    ∃ y : Cursor, readGap indent [] none (x.rest.length + 1) x
        = some ⟨List.replicate n ' ', false, y⟩ ∧
      y.rest = t ∧ y.line = x.line ∧ y.column = x.column + n := by
  obtain ⟨rest, l, c, i⟩ := x
  subst hx
  have hlength : n < (List.replicate n ' ' ++ t).length + 1 := by
    rw [List.length_append, List.length_replicate]
    omega
  exact ⟨_, readGap_spaces ht indent [] hlength, rfl, rfl, rfl⟩

/-- **A gap in which lines end** reads as the line ends, folded. -/
theorem exists_readGap_breaks {x : Cursor} {n : Nat} {b : Char} {bs : List Char} (ht : Inked t)
    (hb : isShown b = true ∧ isBreak b = true)
    (hbs : ∀ b ∈ bs, isShown b = true ∧ isBreak b = true)
    (hx : x.rest = b :: (bs ++ (List.replicate n ' ' ++ t))) (indent : Nat) :
    ∃ y : Cursor, readGap indent [] none (x.rest.length + 1) x
        = some ⟨foldBreaks [b] bs, true, y⟩ ∧
      y.rest = t ∧ x.line < y.line ∧ y.column = n := by
  obtain ⟨rest, l, c, i⟩ := x
  subst hx
  have hlength : bs.length + n < (b :: (bs ++ (List.replicate n ' ' ++ t))).length := by
    simp only [List.length_cons, List.length_append, List.length_replicate]
    omega
  have hmore := readGap_more ht indent [] [b] (l := l + 1) (i := i + 1) hbs [] hlength
  rw [List.nil_append] at hmore
  refine ⟨⟨t, l + 1 + bs.length, n, i + 1 + bs.length + n⟩, ?_, rfl, ?_, rfl⟩
  · rw [readGap]
    simp only [isGap_of_isBreak hb.2, hb.2, Cursor.breakText_of_shown hb.1 hb.2,
      Cursor.nextLine_of_shown hb.1 hb.2, Bool.false_eq_true, if_false, if_true]
    exact hmore
  · exact Nat.lt_of_lt_of_le (Nat.lt_succ_self l) (Nat.le_add_right _ _)

end Gaps

end GuestPorts.Yaml
