/-
  GuestPorts/Proofs/Yaml/Value.lean
  =================================
  **A written scalar is one token** (`reads_writeScalar`).

  It is read in one step from its first character to the next token, which may stand in the
  column of the collection or left of it (`Reads`).
-/
import GuestPorts.Proofs.Yaml.Characters
import GuestPorts.Proofs.Yaml.Scan

namespace GuestPorts.Yaml.Scan

/-! ### Tokens -/

section Tokens

variable {x : Cursor} {tokens : List Token} {columns : List Nat} {o : Nat} {keyAllowed : Bool}
  {c : Char} {r : List Char}

theorem readToken_quote {single : Bool} (hx : x.rest = quoteMark single :: r)
    (hcolumn : 0 < x.column) (tokens : List Token) (columns : List Nat) (keyAllowed : Bool) :
    (block x tokens columns keyAllowed).readToken
      = (block x tokens columns keyAllowed).readLeaf (quotedToken single) := by
  have hmarker := fun mark => Cursor.atMarker_of_column_pos hcolumn mark
  have hzero : x.column ≠ 0 := Nat.ne_of_gt hcolumn
  cases single <;> simp [readToken, block, hx, hmarker, hzero, quoteMark]

theorem readToken_literal (hx : x.rest = '|' :: r) (hcolumn : 0 < x.column) :
    (block x tokens columns keyAllowed).readToken
      = (block x tokens columns keyAllowed).readBlockToken true := by
  have hmarker := fun mark => Cursor.atMarker_of_column_pos hcolumn mark
  have hzero : x.column ≠ 0 := Nat.ne_of_gt hcolumn
  simp [readToken, block, hx, hmarker, hzero, inFlow]

structure StartsPlain (c : Char) (r : List Char) : Prop where
  ink : isInk c = true
  indicator : isIndicator c = false
  mark : c = '-' ∨ c = '?' ∨ c = ':' → atGap r = false

theorem StartsPlain.indicators (h : StartsPlain c r) :
    c ∉ "#,[]\x7b\x7d&*!|>'\"%@`".toList := by
  intro hmem
  have hindicator := h.indicator
  rw [isIndicator, List.contains_iff_mem.2 hmem] at hindicator
  cases hindicator

theorem StartsPlain.startsPlain (h : StartsPlain c r) : startsPlain false c r = true := by
  obtain ⟨hgap, hbreak⟩ := isInk_iff.1 h.ink
  by_cases hmark : c = '-' ∨ c = '?' ∨ c = ':'
  · have hnext := h.mark hmark
    rcases hmark with rfl | rfl | rfl
    · have hhead : r.head?.any isGap = false := by
        cases r with
        | nil => rfl
        | cons d r => exact (Bool.or_eq_false_iff.1 hnext).1
      simp [Scan.startsPlain, hhead]
    · simp [Scan.startsPlain, hnext]
    · simp [Scan.startsPlain, hnext]
  · have hindicators := h.indicators
    simp only [String.reduceToList, List.mem_cons, List.not_mem_nil, or_false, not_or]
      at hindicators hmark
    simp [Scan.startsPlain, hgap, hbreak, hindicators, hmark]

theorem readToken_plain (h : StartsPlain c r) (hx : x.rest = c :: r)
    (hmarker : x.atMarker '-' = false ∧ x.atMarker '.' = false) (tokens : List Token)
    (columns : List Nat) (keyAllowed : Bool) :
    (block x tokens columns keyAllowed).readToken
      = (block x tokens columns keyAllowed).readLeaf
          (plainToken false ((columns.head?.map (· + 1)).getD 0)) := by
  have hindicators := h.indicators
  simp only [String.reduceToList, List.mem_cons, List.not_mem_nil, or_false, not_or]
    at hindicators
  have hdash : ¬(c = '-' ∧ atGap r = true) := fun hc => by simp [h.mark (.inl hc.1)] at hc
  have hquery : ¬(c = '?' ∧ atGap r = true) := fun hc => by simp [h.mark (.inr (.inl hc.1))] at hc
  have hcolon : ¬(c = ':' ∧ atGap r = true) := fun hc => by simp [h.mark (.inr (.inr hc.1))] at hc
  simp [readToken, block, hx, hmarker, inFlow, hindicators, hdash, hquery, hcolon, h.startsPlain,
    column?]

/-- A scalar in front of the end of its line, and the way to the next token. -/
theorem moves_leaf {read : Cursor → Option (Token × Cursor × Bool)} {token : Token} {y z : Cursor}
    {broken : Bool} (ho : o < x.column)
    (htoken : (block x tokens (o :: columns) keyAllowed).readToken
      = (block x tokens (o :: columns) keyAllowed).readLeaf read)
    (hread : read x = some (token, y, broken))
    (hsettle : ∀ candidate,
      settle { block y (tokens ++ [token]) (o :: columns) broken with candidate }
        = dropStale { block z (tokens ++ [token]) (o :: columns) true with candidate })
    (hline : x.line < z.line) (hlength : z.rest.length < x.rest.length) :
    Moves (block x tokens (o :: columns) keyAllowed)
      (block z (tokens ++ [token]) (o :: columns) true) := by
  refine moves_inside (Nat.le_of_lt ho) (htoken.trans (readLeaf_block hread)) ?_ hlength
  rw [hsettle]
  cases keyAllowed with
  | true => exact dropStale_line (candidateAt_needed (Nat.ne_of_lt ho)) hline
  | false => exact dropStale_block

end Tokens

/-! ### Scalars -/

/-- A text that reads as some tokens behind the column of its collection, together with the
    indentation of the token behind it. -/
structure Reads (o : Nat) (text : List Char) (read : List Token) : Prop where
  begins : ∀ t, Begins (text ++ t)
  printable : Printable text
  reaches : ∀ {x : Cursor} {k : List Char} {m : Nat}, m ≤ o → Begins k → o < x.column →
    x.rest = text ++ (List.replicate m ' ' ++ k) → ∀ tokens columns keyAllowed,
    ∃ y : Cursor, y.rest = k ∧ y.column = m ∧
      Reaches (block x tokens (o :: columns) keyAllowed)
        (block y (tokens ++ read) (o :: columns) true)

theorem begins_cons {c : Char} (hink : isInk c = true) (hcomment : c ≠ '#') (hbom : c ≠ '\ufeff')
    (t : List Char) : Begins (c :: t) := by
  intro d hd
  obtain rfl : c = d := Option.some.inj hd
  exact ⟨hink, hcomment, hbom⟩

theorem startsPlain_of_startsBadly {c : Char} {r : List Char} (hink : isInk c = true)
    (h : startsBadly (c :: r) = false) (t : List Char) : StartsPlain c (r ++ '\n' :: t) := by
  simp only [startsBadly, Bool.or_eq_false_iff] at h
  obtain ⟨-, hindicator, hmark⟩ := h
  refine ⟨hink, hindicator, ?_⟩
  intro hc
  have hgap : atGap r = false := by
    rcases hc with rfl | rfl | rfl <;> simpa using hmark
  cases r with
  | nil => cases hgap
  | cons d r => exact hgap

theorem reads_plain {cs : List Char} (h : IsPlain cs) (hbom : cs.head? ≠ some '\ufeff')
    (hstart : startsBadly cs = false) (hprintable : Printable (cs ++ ['\n'])) (o : Nat) :
    Reads o (cs ++ ['\n']) [.scalar .plain cs] := by
  obtain ⟨c, r, rfl⟩ := List.exists_cons_of_ne_nil h.ne_nil
  have hink : isInk c = true := inked_cons.1 (h.inked_append [])
  have hplain := startsPlain_of_startsBadly hink hstart
  have hcomment : c ≠ '#' := by
    rintro rfl
    exact absurd (hplain []).indicator (by decide)
  refine ⟨?_, hprintable, ?_⟩
  · intro t
    exact begins_cons hink hcomment (fun hc => hbom (congrArg some hc)) _
  · intro x k m hm hk ho hx tokens columns keyAllowed
    rw [List.append_assoc, List.singleton_append] at hx
    have hpos : 0 < x.column := Nat.zero_lt_of_lt ho
    have hmarker := fun mark => Cursor.atMarker_of_column_pos hpos mark
    obtain ⟨y, hread, hy, hline, hend⟩ :=
      exists_plainToken h hk.inked (Nat.lt_succ_of_le hm) hx ho
    have htoken := readToken_plain (hplain _) hx ⟨hmarker _, hmarker _⟩ tokens (o :: columns)
      keyAllowed
    refine ⟨y, hy, hend, (moves_leaf ho htoken hread ?_ hline ?_).reaches⟩
    · intro candidate
      exact settle_here (hy ▸ hk)
    · rw [hy, hx]
      simp only [List.length_append, List.length_cons]
      omega

theorem reads_quoted {single : Bool} {text cs : List Char} (h : Spelled single text cs)
    (hprintable : Printable (quoteMark single :: (text ++ [quoteMark single, '\n']))) (o : Nat) :
    Reads o (quoteMark single :: (text ++ [quoteMark single, '\n']))
      [.scalar (if single then .single else .double) cs] := by
  refine ⟨?_, hprintable, ?_⟩
  · intro t
    refine begins_cons (isInk_quoteMark single) ?_ ?_ _ <;> cases single <;> decide
  · intro x k m hm hk ho hx tokens columns keyAllowed
    have hpos : 0 < x.column := Nat.zero_lt_of_lt ho
    rw [List.cons_append, List.append_assoc, List.cons_append, List.singleton_append] at hx
    obtain ⟨y, hread, hy, hline⟩ := exists_quotedToken h (by simp) hx
    have htoken := readToken_quote hx hpos tokens (o :: columns) keyAllowed
    refine ⟨⟨k, y.line + 1, m, y.index + 1 + m⟩, rfl, rfl,
      (moves_leaf ho htoken hread ?_ (Nat.lt_succ_of_le hline) ?_).reaches⟩
    · intro candidate
      exact settle_break rfl hk hy
    · rw [hx]
      simp only [List.length_append, List.length_cons]
      omega

theorem reads_literal {cs : List Char} (hne : cs ≠ []) (hshown : ∀ c ∈ cs, isShown c = true)
    (o : Nat) (hprintable : Printable
      ('|' :: (literalHints cs ++ '\n' :: (literalText (o + 2) true cs ++ lastBreak cs)))) :
    Reads o ('|' :: (literalHints cs ++ '\n' :: (literalText (o + 2) true cs ++ lastBreak cs)))
      [.scalar .literal cs] := by
  refine ⟨?_, hprintable, ?_⟩
  · intro t
    exact begins_cons (by decide) (by decide) (by decide) _
  · intro x k m hm hk ho hx tokens columns keyAllowed
    have hpos : 0 < x.column := Nat.zero_lt_of_lt ho
    rw [List.cons_append, List.append_assoc, List.cons_append, List.append_assoc] at hx
    have hrest : (x.skip 1).rest = literalHints cs ++ '\n' :: (literalText (o + 2) true cs
        ++ (lastBreak cs ++ (List.replicate m ' ' ++ k))) := by
      simp [Cursor.skip, hx]
    obtain ⟨y, hread, hy, hline, hend⟩ :=
      exists_readBlock hne hshown hk.inked (Nat.lt_add_right 1 (Nat.lt_succ_of_le hm)) hrest
    have htoken : (block x tokens (o :: columns) keyAllowed).readBlockToken true
        = some (block y (tokens ++ [.scalar .literal cs]) (o :: columns) true) := by
      simp [readBlockToken, dropCandidate, block, column?, hread, emit]
    have hsettle : (block y (tokens ++ [.scalar .literal cs]) (o :: columns) true).settle
        = some (block y (tokens ++ [.scalar .literal cs]) (o :: columns) true) :=
      (settle_here (hy ▸ hk)).trans dropStale_block
    have hlength : y.rest.length < x.rest.length := by
      rw [hy, hx]
      simp only [List.length_append, List.length_cons]
      omega
    exact ⟨y, hy, hend, (moves_inside (Nat.le_of_lt ho) ((readToken_literal hx hpos).trans htoken)
      hsettle hlength).reaches⟩

/-- **A scalar is read back as it was written**, whatever its text is. -/
theorem reads_writeScalar (o : Nat) (cs : List Char) :
    Reads o (writeScalar (o + 2) cs) [.scalar (styleFor cs) cs] := by
  have hprintable := printable_writeScalar (o + 2) cs
  rcases styleFor_cases cs with ⟨hstyle, hfits, hstart, -⟩ | ⟨hstyle, hfits⟩ | hstyle |
    ⟨hstyle, hne, hshown⟩
  · rw [writeScalar_plain hstyle] at hprintable ⊢
    rw [hstyle]
    have hbom : cs.head? ≠ some '\ufeff' := fun hbom =>
      absurd (hfits.shown _ (List.mem_of_head? hbom)) (by decide)
    exact reads_plain (isPlain_of_fitsPlain hfits) hbom hstart hprintable o
  · rw [writeScalar_single hstyle] at hprintable ⊢
    rw [hstyle]
    exact reads_quoted (spelled_single (Nat.succ_pos (o + 1)) hfits) hprintable o
  · rw [writeScalar_double hstyle] at hprintable ⊢
    rw [hstyle]
    exact reads_quoted (spelled_double cs) hprintable o
  · rw [writeScalar_literal hstyle] at hprintable ⊢
    rw [hstyle]
    exact reads_literal hne hshown o hprintable

end GuestPorts.Yaml.Scan
