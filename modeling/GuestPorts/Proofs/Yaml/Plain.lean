/-
  GuestPorts/Proofs/Yaml/Plain.lean
  =================================
  **Plain scalars are read back** (`exists_plainToken`, `plainToken_key`).

  A text that may be written plain is a sequence of words with spaces between them
  (`IsPlain`), none of which ends in a colon or starts a comment.  The reader takes word and
  gap in turn and stops where the line behind the last word is indented less.
-/
import GuestPorts.Proofs.Yaml.Gap

namespace GuestPorts.Yaml

/-! ### Words -/

structure IsPlainWord (w : List Char) : Prop where
  ne_nil : w ≠ []
  ink : ∀ c ∈ w, isInk c = true
  comment : w.head? ≠ some '#'
  colon : w.getLast? ≠ some ':'

/-- Words with spaces between them. -/
inductive IsPlain : List Char → Prop where
  | word {w : List Char} (hw : IsPlainWord w) : IsPlain w
  | spaces {w cs : List Char} {n : Nat} (hw : IsPlainWord w) (hcs : IsPlain cs) :
      IsPlain (w ++ (List.replicate (n + 1) ' ' ++ cs))

theorem IsPlainWord.inked_append {w : List Char} (hw : IsPlainWord w) (t : List Char) :
    Inked (w ++ t) := by
  cases w with
  | nil => exact absurd rfl hw.ne_nil
  | cons c w => exact inked_cons.2 (hw.ink c List.mem_cons_self)

theorem IsPlain.ne_nil {cs : List Char} (h : IsPlain cs) : cs ≠ [] := by
  cases h with
  | word hw => exact hw.ne_nil
  | spaces hw hcs => exact List.append_ne_nil_of_left_ne_nil hw.ne_nil _

theorem IsPlain.inked_append {cs : List Char} (h : IsPlain cs) (t : List Char) :
    Inked (cs ++ t) := by
  cases h with
  | word hw => exact hw.inked_append t
  | spaces hw hcs =>
    rw [List.append_assoc]
    exact hw.inked_append _

theorem atGap_of_ink {c : Char} (hc : isInk c = true) (r : List Char) : atGap (c :: r) = false := by
  obtain ⟨hgap, hbreak⟩ := isInk_iff.1 hc
  simp [atGap, hgap, hbreak]

/-- A word is taken as a whole, up to where none goes on. -/
theorem plainWord_append {w t : List Char} (hink : ∀ c ∈ w, isInk c = true)
    (hcolon : w.getLast? ≠ some ':') (ht : plainWord false t = some []) :
    plainWord false (w ++ t) = some w := by
  induction w with
  | nil => exact ht
  | cons c w ih =>
    obtain ⟨hc, hink⟩ := List.forall_mem_cons.1 hink
    obtain ⟨hgap, hbreak⟩ := isInk_iff.1 hc
    have hmore : plainWord false (w ++ t) = some w := by
      apply ih hink
      intro hlast
      exact hcolon (by rw [List.getLast?_cons, hlast, Option.getD_some])
    have hend : (decide (c = ':') && atGap (w ++ t)) = false := by
      cases w with
      | nil =>
        have hne : c ≠ ':' := by simpa using hcolon
        simp [hne]
      | cons d w => simp [atGap_of_ink (hink d List.mem_cons_self)]
    rw [List.cons_append, plainWord]
    simp [hgap, hbreak, hend, hmore]

theorem plainWord_gap {t : List Char} (ht : atGap t = true) : plainWord false t = some [] := by
  cases t with
  | nil => rfl
  | cons d t =>
    have hd : (isGap d || isBreak d) = true := ht
    simp [plainWord, hd]

theorem plainWord_colon {t : List Char} (ht : atGap t = true) :
    plainWord false (':' :: t) = some [] := by
  have hcolon : (isGap ':' || isBreak ':') = false := by decide
  simp [plainWord, ht, hcolon]

/-! ### Reading -/

section Reading

variable {w t : List Char} {x : Cursor} {indent : Nat}

/-- The reader does not take a word for something else. -/
theorem not_ended_of_word (hw : IsPlainWord w) (hx : x.rest = w ++ t)
    (hmarker : x.atMarker '-' = false ∧ x.atMarker '.' = false) :
    (x.atMarker '-' || x.atMarker '.' || decide (x.rest.head? = some '#')) = false := by
  have hcomment : (w ++ t).head? ≠ some '#' := by
    cases w with
    | nil => exact absurd rfl hw.ne_nil
    | cons c w => exact hw.comment
  rw [hx, hmarker.1, hmarker.2, decide_eq_false hcomment]
  rfl

/-- A word in front of a gap, then what stands behind the gap. -/
theorem readPlain_word (hw : IsPlainWord w) (hx : x.rest = w ++ t) (ht : atGap t = true)
    (hne : t ≠ []) (hcolumn : 0 < x.column) (lead : List Char) (broken : Bool) :
    ∃ y : Cursor, y.rest = t ∧ y.line = x.line ∧ x.column ≤ y.column ∧
      ∀ fuel gap, readGap indent [] none (y.rest.length + 1) y = some gap →
        readPlain false indent (fuel + 1) ⟨lead, broken, x⟩
          = if gap.cursor.column < indent then some ⟨lead ++ w, gap.cursor, gap.broken⟩
            else (readPlain false indent fuel gap).map fun more =>
              { more with text := lead ++ w ++ more.text } := by
  obtain ⟨rest, l, c, i⟩ := x
  subst hx
  refine ⟨⟨t, l, c + w.length, i + w.length⟩, rfl, rfl, Nat.le_add_right c _, ?_⟩
  intro fuel gap hgap
  have hmarker := fun mark =>
    Cursor.atMarker_of_column_pos (x := ⟨w ++ t, l, c, i⟩) hcolumn mark
  have hended := not_ended_of_word (x := ⟨w ++ t, l, c, i⟩) hw rfl ⟨hmarker _, hmarker _⟩
  have hword := plainWord_append hw.ink hw.colon (plainWord_gap ht)
  have hsome : w.isEmpty = false := by simp [hw.ne_nil]
  have hthere : (!atGap t || t.isEmpty) = false := by simp [ht, hne]
  rw [readPlain]
  simp only [hended, hword, Cursor.skip_append, hsome, hthere, hgap, Option.bind_eq_bind,
    Option.bind_some, Bool.false_eq_true, if_false, Bool.not_false, Bool.true_and, Bool.or_false,
    decide_eq_true_eq]
  split <;> cases readPlain false indent fuel gap <;> rfl

/-- **Plain text is read** up to the line behind it, which is indented less. -/
theorem readPlain_of_isPlain {cs k : List Char} {m fuel : Nat} (h : IsPlain cs) (hk : Inked k)
    (hm : m < indent) (hx : x.rest = cs ++ '\n' :: (List.replicate m ' ' ++ k))
    (hcolumn : indent ≤ x.column) (hfuel : cs.length ≤ fuel) (lead : List Char) (broken : Bool) :
    ∃ y : Cursor, readPlain false indent fuel ⟨lead, broken, x⟩ = some ⟨lead ++ cs, y, true⟩ ∧
      y.rest = k ∧ x.line < y.line ∧ y.column = m := by
  induction h generalizing x fuel lead broken with
  | @word w hw =>
    obtain ⟨fuel, rfl⟩ : ∃ n, fuel = n + 1 := by
      have hpos := List.length_pos_iff.2 hw.ne_nil
      exact ⟨fuel - 1, by omega⟩
    obtain ⟨y, hy, hline, -, hread⟩ :=
      readPlain_word hw hx rfl (List.cons_ne_nil _ _) (by omega) lead broken
    obtain ⟨z, hgap, hz, hline', hcolumn'⟩ :=
      exists_readGap_breaks hk ⟨rfl, rfl⟩ (List.forall_mem_nil _) hy indent
    refine ⟨z, ?_, hz, by omega, hcolumn'⟩
    rw [hread fuel _ hgap, if_pos (show z.column < indent by omega)]
  | @spaces w cs n hw hcs ih =>
    rw [List.append_assoc, List.append_assoc] at hx
    obtain ⟨fuel, rfl⟩ : ∃ n, fuel = n + 1 := by
      have hpos := List.length_pos_iff.2 hw.ne_nil
      rw [List.length_append] at hfuel
      exact ⟨fuel - 1, by omega⟩
    obtain ⟨y, hy, hline, hle, hread⟩ :=
      readPlain_word hw hx rfl (by simp) (by omega) lead broken
    obtain ⟨z, hgap, hz, hline', hcolumn'⟩ :=
      exists_readGap_spaces (n := n + 1) (hcs.inked_append _) hy indent
    simp only [List.length_append, List.length_replicate] at hfuel
    have hmoreFuel : cs.length ≤ fuel := by omega
    obtain ⟨last, hmore, hlast, hless, hend⟩ :=
      ih hz (by omega) hmoreFuel (List.replicate (n + 1) ' ') false
    refine ⟨last, ?_, hlast, by omega, hend⟩
    rw [hread fuel _ hgap, if_neg (show ¬z.column < indent by omega), hmore]
    simp

/-- **A plain scalar is a token**, and the next one starts a line further down. -/
theorem exists_plainToken {cs k : List Char} {m : Nat} (h : IsPlain cs) (hk : Inked k)
    (hm : m < indent) (hx : x.rest = cs ++ '\n' :: (List.replicate m ' ' ++ k))
    (hcolumn : indent ≤ x.column) :
    ∃ y : Cursor, Scan.plainToken false indent x = some (.scalar .plain cs, y, true) ∧
      y.rest = k ∧ x.line < y.line ∧ y.column = m := by
  have hfuel : cs.length ≤ x.rest.length + 2 := by
    rw [hx, List.length_append]
    omega
  obtain ⟨y, hread, hy, hline, hcolumn'⟩ := readPlain_of_isPlain h hk hm hx hcolumn hfuel [] false
  refine ⟨y, ?_, hy, hline, hcolumn'⟩
  simp [Scan.plainToken, hread]

/-- **A word in front of a colon is a token**, in the same line. -/
theorem plainToken_key {r : List Char} {l c i : Nat} (hw : IsPlainWord w) (hr : atGap r = true)
    (hmarker : w.head? ≠ some '-' ∧ w.head? ≠ some '.') (indent : Nat) :
    Scan.plainToken false indent ⟨w ++ ':' :: r, l, c, i⟩
      = some (.scalar .plain w, ⟨':' :: r, l, c + w.length, i + w.length⟩, false) := by
  have hstart : ∀ mark, w.head? ≠ some mark →
      (⟨w ++ ':' :: r, l, c, i⟩ : Cursor).atMarker mark = false := by
    intro mark hmark
    cases w with
    | nil => exact absurd rfl hw.ne_nil
    | cons d w => exact Cursor.atMarker_of_ne rfl fun hd => hmark (congrArg some hd)
  have hended := not_ended_of_word (x := ⟨w ++ ':' :: r, l, c, i⟩) hw rfl
    ⟨hstart _ hmarker.1, hstart _ hmarker.2⟩
  have hword := plainWord_append hw.ink hw.colon (plainWord_colon hr)
  have hsome : w.isEmpty = false := by simp [hw.ne_nil]
  have hcolon : (!atGap (':' :: r) || (':' :: r).isEmpty) = true := rfl
  rw [Scan.plainToken, readPlain]
  simp only [hended, hword, hsome, hcolon, Cursor.skip_append, Option.bind_eq_bind, Option.bind_some,
    Bool.false_eq_true, if_true, if_false]
  rfl

end Reading

/-! ### What may be written plain -/

theorem endsEarly_of_append {xs ys : List Char} (h : endsEarly (xs ++ ys) = false) :
    endsEarly ys = false := by
  induction xs with
  | nil => exact h
  | cons x xs ih =>
    have htail : endsEarly (xs ++ ys) = false := (Bool.or_eq_false_iff.1 h).2
    exact ih htail

/-- A colon behind a character is not at the end of a word. -/
theorem atGap_of_endsEarly {u r : List Char} {c : Char}
    (h : endsEarly (c :: u ++ ':' :: r) = false) : atGap r = false := by
  have hne : c :: u ≠ [] := List.cons_ne_nil c u
  rw [← List.dropLast_concat_getLast hne, List.append_assoc, List.singleton_append] at h
  have hlast := endsEarly_of_append h
  rw [endsEarly, Bool.or_eq_false_iff] at hlast
  exact hlast.1

/-- What makes a text plain, seen from behind a space. -/
structure FitsPlain (cs : List Char) : Prop where
  ne_nil : cs ≠ []
  shown : ∀ c ∈ cs, isShown c = true
  unbroken : ∀ c ∈ cs, isBreak c = false
  first : cs.head? ≠ some ' '
  last : cs.getLast? ≠ some ' '
  unended : endsEarly (' ' :: cs) = false

/-- Up to the first space such a text is a word. -/
theorem FitsPlain.isPlainWord {w back : List Char} (h : FitsPlain (w ++ back))
    (hw : ∀ c ∈ w, c ≠ ' ') (hback : atGap back = true) (hne : w ≠ []) : IsPlainWord w where
  ne_nil := hne
  ink := by
    intro c hc
    have hmem := List.mem_append_left back hc
    exact isInk_of_ne_space (h.shown c hmem) (h.unbroken c hmem) (hw c hc)
  comment := by
    intro hcomment
    obtain ⟨v, rfl⟩ := List.head?_eq_some_iff.1 hcomment
    have hended := h.unended
    simp [endsEarly, isGap] at hended
  colon := by
    intro hcolon
    obtain ⟨u, rfl⟩ := List.getLast?_eq_some_iff.1 hcolon
    have hended := h.unended
    rw [List.append_assoc, List.singleton_append, ← List.cons_append] at hended
    rw [atGap_of_endsEarly hended] at hback
    cases hback

/-- Behind spaces the text goes on, and it is plain again. -/
theorem FitsPlain.of_spaces {w rest : List Char} {n : Nat}
    (h : FitsPlain (w ++ (List.replicate (n + 1) ' ' ++ rest))) (hrest : rest.head? ≠ some ' ') :
    FitsPlain rest where
  ne_nil := by
    rintro rfl
    apply h.last
    simp [List.getLast?_append, List.getLast?_replicate]
  shown := fun c hc => h.shown c (List.mem_append_right w (List.mem_append_right _ hc))
  unbroken := fun c hc => h.unbroken c (List.mem_append_right w (List.mem_append_right _ hc))
  first := hrest
  last := by
    intro hlast
    apply h.last
    simp [List.getLast?_append, hlast]
  unended := by
    have hended := h.unended
    rw [List.replicate_succ', List.append_assoc, List.singleton_append, ← List.append_assoc,
      ← List.cons_append] at hended
    exact endsEarly_of_append hended

theorem isPlain_of_fitsPlain {cs : List Char} (h : FitsPlain cs) : IsPlain cs := by
  obtain ⟨length, hlength⟩ : ∃ n, cs.length < n := ⟨_, Nat.lt_succ_self _⟩
  induction length generalizing cs with
  | zero => exact absurd hlength (Nat.not_lt_zero _)
  | succ length ih =>
    obtain ⟨w, back, rfl, hw, hback⟩ := exists_span (fun c => decide (c ≠ ' ')) cs
    have hword : ∀ c ∈ w, c ≠ ' ' := fun c hc => of_decide_eq_true (hw c hc)
    have hne : w ≠ [] := by
      rintro rfl
      have hfirst := h.first
      cases back with
      | nil => exact h.ne_nil rfl
      | cons d back =>
        have hspace : d = ' ' := by simpa using hback d rfl
        exact hfirst (congrArg some hspace)
    obtain ⟨n, rest, rfl, hrest⟩ := exists_spaces back
    cases n with
    | zero =>
      cases rest with
      | nil =>
        have hplain := h.isPlainWord hword rfl hne
        rw [List.replicate_zero, List.append_nil, List.append_nil]
        exact .word hplain
      | cons d rest =>
        have hspace : d = ' ' := by simpa using hback d rfl
        exact absurd (congrArg some hspace) hrest
    | succ n =>
      have hplain := h.isPlainWord hword rfl hne
      have hpos := List.length_pos_iff.2 hne
      simp only [List.length_append, List.length_replicate] at hlength
      exact .spaces hplain (ih (h.of_spaces hrest) (by omega))

end GuestPorts.Yaml
