/-
  GuestPorts/Proofs/Yaml/Literal.lean
  ===================================
  **Literal blocks are read back** (`exists_readBlock`).

  A block is read line by line, and between two lines of text come the end of the first and
  empty lines (`exists_readBlockLines_line`).  What becomes of the line ends behind the last
  line is settled by the hints in front of the block; they are written for that very text
  (`chompFor`), and dropping lines at the front of a text does not change them
  (`chompFor_append`).
-/
import GuestPorts.Proofs.Yaml.Gap

namespace GuestPorts.Yaml

/-! ### Hints -/

/-- What has to become of the line ends at the end of a text. -/
def chompFor (cs : List Char) : Chomp :=
  match cs.reverse with
  | [] => .strip
  | [c] => if isBreak c then .keep else .strip
  | c :: d :: _ => if !isBreak c then .strip else if isBreak d then .keep else .clip

theorem chompFor_two (xs : List Char) (d c : Char) :
    chompFor (xs ++ [d, c])
      = if !isBreak c then .strip else if isBreak d then .keep else .clip := by
  simp [chompFor]

theorem chompFor_ink {c : Char} (hc : isBreak c = false) (xs : List Char) :
    chompFor (xs ++ [c]) = .strip := by
  unfold chompFor
  rw [List.reverse_append, List.reverse_singleton, List.singleton_append]
  cases xs.reverse <;> simp [hc]

/-- Lines at the front do not matter. -/
theorem chompFor_append {c : Char} (hc : isBreak c = false) (xs r : List Char) :
    chompFor (xs ++ c :: r) = chompFor (c :: r) := by
  obtain rfl | ⟨r, last, rfl⟩ := List.eq_nil_or_concat r
  · rw [chompFor_ink hc]
    exact (chompFor_ink hc []).symm
  · obtain rfl | ⟨r, before, rfl⟩ := List.eq_nil_or_concat r
    · exact (chompFor_two xs c last).trans (chompFor_two [] c last).symm
    · have hleft := chompFor_two (xs ++ c :: r) before last
      have hright := chompFor_two (c :: r) before last
      simp only [List.concat_eq_append, List.append_assoc, List.cons_append, List.nil_append]
        at hleft hright ⊢
      rw [hleft, hright]

theorem chompFor_breaks {b : Char} {bs : List Char} (hb : isBreak b = true)
    (hbs : ∀ b ∈ bs, isBreak b = true) (hne : bs ≠ []) (xs : List Char) :
    chompFor (xs ++ b :: bs) = .keep := by
  obtain ⟨bs, last, rfl⟩ : ∃ u last, bs = u ++ [last] :=
    ⟨_, _, (List.dropLast_concat_getLast hne).symm⟩
  have hlast : isBreak last = true := hbs last (by simp)
  obtain rfl | ⟨bs, before, rfl⟩ := List.eq_nil_or_concat bs
  · exact (chompFor_two xs b last).trans (by simp [hb, hlast])
  · have hbefore : isBreak before = true := hbs before (by simp)
    have htwo := chompFor_two (xs ++ b :: bs) before last
    simp only [List.concat_eq_append, List.append_assoc, List.cons_append, List.nil_append]
      at htwo ⊢
    rw [htwo]
    simp [hbefore, hlast]

theorem chompFor_only_breaks {bs : List Char} (hne : bs ≠ []) (hbs : ∀ b ∈ bs, isBreak b = true) :
    chompFor bs = .keep := by
  cases bs with
  | nil => exact absurd rfl hne
  | cons b bs =>
    obtain ⟨hb, hmore⟩ := List.forall_mem_cons.1 hbs
    cases bs with
    | nil => simp [chompFor, hb]
    | cons d bs => exact chompFor_breaks hb hmore (List.cons_ne_nil d bs) []

/-- A text that starts with a blank needs its indentation told. -/
def leadsBlank (cs : List Char) : Bool := cs.head?.any fun c => c = ' ' || isBreak c

def chompHint : Chomp → List Char
  | .strip => ['-']
  | .clip => []
  | .keep => ['+']

theorem literalHints_eq (cs : List Char) :
    literalHints cs = (if leadsBlank cs then ['2'] else []) ++ chompHint (chompFor cs) := by
  unfold literalHints chompFor leadsBlank
  congr 1
  cases cs.reverse with
  | nil => rfl
  | cons c ds =>
    cases ds with
    | nil => cases hc : isBreak c <;> simp [hc, chompHint]
    | cons d ds => cases hc : isBreak c <;> cases hd : isBreak d <;> simp [hc, hd, chompHint]

theorem exists_readBlockHead (cs : List Char) {r : List Char} {x : Cursor}
    (hx : x.rest = literalHints cs ++ '\n' :: r) :
    ∃ i, readBlockHead x
      = some ⟨chompFor cs, if leadsBlank cs then some 2 else none, ⟨r, x.line + 1, 0, i⟩⟩ := by
  obtain ⟨rest, l, c, i⟩ := x
  subst hx
  rw [literalHints_eq]
  cases leadsBlank cs <;> cases chompFor cs <;> exact ⟨_, rfl⟩

/-! ### Empty lines -/

section Lines

variable {t : List Char} {l c i : Nat}

theorem skipIndent_spaces {indent : Option Nat} {j fuel : Nat} (hj : ∀ n ∈ indent, c + j ≤ n)
    (ht : t.head? = some ' ' → indent = some (c + j)) (hfuel : j ≤ fuel) :
    skipIndent indent fuel ⟨List.replicate j ' ' ++ t, l, c, i⟩ = ⟨t, l, c + j, i + j⟩ := by
  induction j generalizing fuel c i with
  | zero =>
    cases fuel with
    | zero => rfl
    | succ fuel =>
      rw [List.replicate_zero, List.nil_append, skipIndent]
      by_cases hspace : t.head? = some ' '
      · simp [ht hspace]
      · simp [hspace]
  | succ j ih =>
    obtain ⟨fuel, rfl⟩ : ∃ n, fuel = n + 1 := ⟨fuel - 1, by omega⟩
    have hless : indent.all (c < ·) = true := by
      cases indent with
      | none => rfl
      | some n =>
        have hle := hj n rfl
        exact decide_eq_true (by omega)
    have hcolumn : c + 1 + j = c + (j + 1) := by omega
    have hrest := ih (c := c + 1) (i := i + 1) (hcolumn ▸ hj) (hcolumn ▸ ht)
      (Nat.le_of_succ_le_succ hfuel)
    have hstep : skipIndent indent (fuel + 1) ⟨List.replicate (j + 1) ' ' ++ t, l, c, i⟩
        = skipIndent indent fuel ⟨List.replicate j ' ' ++ t, l, c + 1, i + 1⟩ := by
      simp [skipIndent, List.replicate_succ, hless, Cursor.skip]
    rw [hstep, hrest]
    congr 1
    all_goals omega

/-- Where the indentation of a line ends: not at the end of the line, and at a blank only if
    the indentation is complete. -/
def Stops (indent : Option Nat) (column : Nat) (t : List Char) : Prop :=
  ∀ d ∈ t.head?, isBreak d = false ∧ (isGap d = true → indent = some column)

theorem Inked.stops {indent : Option Nat} {column : Nat} (ht : Inked t) : Stops indent column t := by
  intro d hd
  obtain ⟨hgap, hbreak⟩ := isInk_iff.1 (ht d hd)
  refine ⟨hbreak, ?_⟩
  intro h
  rw [h] at hgap
  cases hgap

/-- Empty lines are read up to the first line that is none. -/
theorem readEmptyLines_stops {indent : Option Nat} {j fuel : Nat} {bs : List Char}
    (hbs : ∀ b ∈ bs, isShown b = true ∧ isBreak b = true) (hj : ∀ n ∈ indent, j ≤ n)
    (ht : Stops indent j t) (hfuel : bs.length < fuel) (widest : Nat) (breaks : List Char) :
    readEmptyLines indent widest breaks fuel ⟨bs ++ (List.replicate j ' ' ++ t), l, 0, i⟩
      = some (breaks ++ bs, max widest j, ⟨t, l + bs.length, j, i + bs.length + j⟩) := by
  obtain ⟨fuel, rfl⟩ : ∃ n, fuel = n + 1 := ⟨fuel - 1, by omega⟩
  induction bs generalizing fuel l i breaks with
  | nil =>
    have hspaces : t.head? = some ' ' → indent = some (0 + j) := by
      intro hspace
      rw [Nat.zero_add]
      exact (ht ' ' hspace).2 rfl
    have hlength : j ≤ (List.replicate j ' ' ++ t).length := by simp
    have hskip := skipIndent_spaces (c := 0) (l := l) (i := i) (by simpa using hj) hspaces hlength
    rw [List.nil_append, readEmptyLines]
    simp only [hskip, Nat.zero_add]
    have htab : (indent.all (j < ·) && decide (t.head? = some '\t')) = false := by
      by_cases htab : t.head? = some '\t'
      · simp [(ht '\t' htab).2 rfl]
      · simp [htab]
    have hbreak : t.head?.any isBreak = false := by
      cases hhead : t.head? with
      | none => rfl
      | some d => exact (ht d hhead).1
    simp [htab, hbreak]
  | cons b bs ih =>
    obtain ⟨⟨hshown, hb⟩, hbs⟩ := List.forall_mem_cons.1 hbs
    obtain ⟨fuel, rfl⟩ : ∃ n, fuel = n + 1 := ⟨fuel - 1, by simp at hfuel; omega⟩
    have hne : b ≠ ' ' ∧ b ≠ '\t' := by
      constructor <;> (rintro rfl; cases hb)
    have hzero : ∀ n ∈ indent, 0 + 0 ≤ n := fun n _ => Nat.zero_le n
    have hskip := skipIndent_spaces (t := b :: (bs ++ (List.replicate j ' ' ++ t)))
      (l := l) (i := i) hzero (by simp [hne.1])
      (Nat.zero_le (b :: (bs ++ (List.replicate j ' ' ++ t))).length)
    rw [List.replicate_zero, List.nil_append] at hskip
    have hmore := ih (l := l + 1) (i := i + 1) hbs (breaks ++ [b]) fuel (by simpa using hfuel)
    rw [List.cons_append, readEmptyLines]
    simp only [hskip, Nat.max_zero, List.head?_cons, Option.any_some, hb, if_true,
      Option.some.injEq, hne.2, decide_false, Bool.and_false, Bool.false_eq_true, if_false,
      Cursor.breakText_of_shown hshown hb, Cursor.nextLine_of_shown hshown hb, Nat.add_zero]
    rw [hmore]
    simp [Nat.add_assoc, Nat.add_comm 1]

/-! ### Lines -/

/-- A line of text, its end, and the empty lines behind it. -/
theorem exists_readBlockLines_line {n j : Nat} {w bs : List Char} {b : Char}
    {x : Cursor} (hw : ∀ d ∈ w, isBreak d = false) (hb : isShown b = true ∧ isBreak b = true)
    (hbs : ∀ b ∈ bs, isShown b = true ∧ isBreak b = true) (hj : j ≤ n) (ht : Stops (some n) j t)
    (hx : x.rest = w ++ b :: (bs ++ (List.replicate j ' ' ++ t))) (hcolumn : x.column = n) :
    ∃ y : Cursor, y.rest = t ∧ y.column = j ∧ x.line < y.line ∧ ∀ chomp fuel lead empty leadBlank,
      readBlockLines true chomp n (fuel + 1) lead empty leadBlank x
        = (readBlockLines true chomp n fuel [b] bs (x.rest.head?.any isGap) y).map fun more =>
            { more with text := lead ++ empty ++ (w ++ more.text) } := by
  obtain ⟨rest, l, c, i⟩ := x
  subst hx hcolumn
  have hline : (w ++ b :: (bs ++ (List.replicate j ' ' ++ t))).takeWhile (fun d => !isBreak d) = w := by
    rw [List.takeWhile_append_of_pos (by simpa using hw), List.takeWhile_cons]
    simp [hb.2]
  have hle : ∀ n ∈ some c, j ≤ n := by simpa using hj
  have hlength : bs.length < (bs ++ (List.replicate j ' ' ++ t)).length + 1 := by
    rw [List.length_append]
    omega
  have hempty := readEmptyLines_stops (l := l + 1) (i := i + w.length + 1) hbs hle ht hlength 0 []
  refine ⟨⟨t, l + 1 + bs.length, j, i + w.length + 1 + bs.length + j⟩, rfl, rfl, ?_, ?_⟩
  · exact Nat.lt_of_lt_of_le (Nat.lt_succ_self l) (Nat.le_add_right _ _)
  · intro chomp fuel lead empty leadBlank
    simp only [readBlockLines, hline, Cursor.skip_append, Cursor.breakText_of_shown hb.1 hb.2,
      Cursor.nextLine_of_shown hb.1 hb.2]
    have hsome : (w ++ b :: (bs ++ (List.replicate j ' ' ++ t))).isEmpty = false := by simp
    simp only [hsome, List.isEmpty_cons, Bool.not_false, Bool.and_true, decide_true, if_true,
      Bool.false_eq_true, if_false, hempty, Option.bind_eq_bind, Option.bind_some, List.nil_append]
    cases readBlockLines true chomp c fuel [b] bs _ _ with
    | none => rfl
    | some more => simp [blockBreaks]

theorem readBlockLines_end {chomp : Chomp} {n : Nat} {x : Cursor} (hcolumn : x.column ≠ n)
    (fuel : Nat) (lead empty : List Char) (leadBlank : Bool) :
    readBlockLines true chomp n (fuel + 1) lead empty leadBlank x
      = some ⟨match chomp with
          | .strip => []
          | .clip => lead
          | .keep => lead ++ empty, x, false⟩ := by
  cases chomp <;> simp [readBlockLines, hcolumn]

theorem literalText_line {n : Nat} {w : List Char} (hw : ∀ c ∈ w, isBreak c = false)
    (back : List Char) : literalText n false (w ++ back) = w ++ literalText n false back := by
  induction w with
  | nil => rfl
  | cons c w ih =>
    obtain ⟨hc, hw⟩ := List.forall_mem_cons.1 hw
    simp [literalText, hc, ih hw]

theorem literalText_break {n : Nat} {b : Char} (hb : isBreak b = true) (afterBreak : Bool)
    (back : List Char) : literalText n afterBreak (b :: back) = b :: literalText n true back := by
  simp [literalText, hb]

theorem literalText_breaks {n : Nat} {bs : List Char} (hbs : ∀ b ∈ bs, isBreak b = true)
    (back : List Char) : literalText n true (bs ++ back) = bs ++ literalText n true back := by
  induction bs with
  | nil => rfl
  | cons b bs ih =>
    obtain ⟨hb, hbs⟩ := List.forall_mem_cons.1 hbs
    rw [List.cons_append, literalText_break hb, ih hbs]
    rfl

theorem literalText_indent {n : Nat} {c : Char} (hc : isBreak c = false) (back : List Char) :
    literalText n true (c :: back) = List.replicate n ' ' ++ literalText n false (c :: back) := by
  simp [literalText, hc]

theorem length_le_literalText (n : Nat) (afterBreak : Bool) (cs : List Char) :
    cs.length ≤ (literalText n afterBreak cs).length := by
  induction cs generalizing afterBreak with
  | nil => exact Nat.zero_le _
  | cons c cs ih =>
    cases hc : isBreak c with
    | true =>
      rw [literalText_break hc]
      exact Nat.succ_le_succ (ih true)
    | false =>
      have hmore := ih false
      simp only [literalText, hc, Bool.false_eq_true, if_false, List.length_append,
        List.length_cons]
      omega

/-- What ends the last line of a block, if the text does not. -/
def lastBreak (cs : List Char) : List Char := if cs.getLast?.any isBreak then [] else ['\n']

theorem lastBreak_append {xs ys : List Char} (hne : ys ≠ []) :
    lastBreak (xs ++ ys) = lastBreak ys := by
  obtain ⟨ys, last, rfl⟩ : ∃ u last, ys = u ++ [last] :=
    ⟨_, _, (List.dropLast_concat_getLast hne).symm⟩
  rw [lastBreak, lastBreak, ← List.append_assoc, List.getLast?_concat, List.getLast?_concat]

theorem lastBreak_breaks {bs : List Char} (hne : bs ≠ []) (hbs : ∀ b ∈ bs, isBreak b = true)
    (xs : List Char) : lastBreak (xs ++ bs) = [] := by
  rw [lastBreak_append hne, lastBreak, List.getLast?_eq_some_getLast hne, Option.any_some,
    hbs _ (List.getLast_mem hne)]
  rfl

/-- The last line of text, and what becomes of the line ends behind it. -/
theorem readBlockLines_last {w bs k : List Char} {n m : Nat} {x : Cursor} (hne : w ≠ [])
    (hw : ∀ c ∈ w, isBreak c = false) (hbs : ∀ b ∈ bs, isShown b = true ∧ isBreak b = true)
    (hk : Inked k) (hm : m < n) (hcolumn : x.column = n)
    (hx : x.rest = w ++ (bs ++ (lastBreak (w ++ bs) ++ (List.replicate m ' ' ++ k))))
    (fuel : Nat) (lead empty : List Char) (leadBlank : Bool) :
    ∃ y : Cursor, readBlockLines true (chompFor (w ++ bs)) n (fuel + 2) lead empty leadBlank x
        = some ⟨lead ++ empty ++ (w ++ bs), y, false⟩ ∧
      y.rest = k ∧ x.line < y.line ∧ y.column = m := by
  obtain ⟨u, last, rfl⟩ : ∃ u last, w = u ++ [last] :=
    ⟨_, _, (List.dropLast_concat_getLast hne).symm⟩
  have hlast : isBreak last = false := hw last (by simp)
  cases bs with
  | nil =>
    have hend : lastBreak (u ++ [last] ++ []) = ['\n'] := by
      simp [lastBreak, hlast]
    rw [hend] at hx
    obtain ⟨y, hy, hend, hless, hread⟩ := exists_readBlockLines_line hw (b := '\n') ⟨rfl, rfl⟩
      (List.forall_mem_nil _) (Nat.le_of_lt hm) hk.stops hx hcolumn
    refine ⟨y, ?_, hy, hless, hend⟩
    rw [List.append_nil, chompFor_ink hlast, hread, readBlockLines_end (by omega)]
    simp
  | cons b bs =>
    obtain ⟨hb, hbs⟩ := List.forall_mem_cons.1 hbs
    have hall : ∀ d ∈ b :: bs, isBreak d = true :=
      List.forall_mem_cons.2 ⟨hb.2, fun d hd => (hbs d hd).2⟩
    rw [lastBreak_breaks (List.cons_ne_nil b bs) hall, List.nil_append, List.cons_append] at hx
    obtain ⟨y, hy, hend, hless, hread⟩ :=
      exists_readBlockLines_line hw hb hbs (Nat.le_of_lt hm) hk.stops hx hcolumn
    refine ⟨y, ?_, hy, hless, hend⟩
    rw [hread, readBlockLines_end (by omega)]
    cases bs with
    | nil =>
      have hchomp : chompFor (u ++ [last] ++ [b]) = .clip := by
        rw [List.append_assoc]
        exact (chompFor_two u last b).trans (by simp [hb.2, hlast])
      rw [hchomp]
      rfl
    | cons d bs =>
      have hchomp := chompFor_breaks hb.2 (fun d hd => (hbs d hd).2) (List.cons_ne_nil d bs)
        (u ++ [last])
      rw [hchomp]
      rfl

/-- **The lines of a block are read** from the first character of the first of them, which is
    not empty, up to a line that is indented less. -/
theorem readBlockLines_of_shown {cs k : List Char} {n m : Nat} (hne : cs ≠ [])
    (hhead : ∀ c ∈ cs.head?, isBreak c = false) (hshown : ∀ c ∈ cs, isShown c = true)
    (hk : Inked k) (hm : m < n) {x : Cursor} (hcolumn : x.column = n)
    (hx : x.rest = literalText n false cs ++ (lastBreak cs ++ (List.replicate m ' ' ++ k)))
    {fuel : Nat} (hfuel : cs.length < fuel) (lead empty : List Char) (leadBlank : Bool) :
    ∃ y : Cursor, readBlockLines true (chompFor cs) n fuel lead empty leadBlank x
        = some ⟨lead ++ empty ++ cs, y, false⟩ ∧
      y.rest = k ∧ x.line < y.line ∧ y.column = m := by
  obtain ⟨length, hlength⟩ : ∃ n, cs.length < n := ⟨_, Nat.lt_succ_self _⟩
  induction length generalizing cs x fuel lead empty leadBlank with
  | zero => exact absurd hlength (Nat.not_lt_zero _)
  | succ length ih =>
    obtain ⟨w, back, rfl, hw, hback⟩ := exists_span (fun c => !isBreak c) cs
    obtain ⟨bs, rest, rfl, hbs, hrest⟩ := exists_span isBreak back
    have hline : ∀ c ∈ w, isBreak c = false := by simpa using hw
    have hword : w ≠ [] := by
      rintro rfl
      cases hall : bs ++ rest with
      | nil => exact hne hall
      | cons b back =>
        rw [hall] at hback
        have hb := hback b rfl
        rw [hhead b (by rw [List.nil_append, hall]; rfl)] at hb
        cases hb
    have hpos := List.length_pos_iff.2 hword
    have hboth : ∀ b ∈ bs, isShown b = true ∧ isBreak b = true := by
      intro b hb
      exact ⟨hshown b (List.mem_append_right w (List.mem_append_left rest hb)), hbs b hb⟩
    simp only [List.length_append] at hlength hfuel
    rw [literalText_line hline, List.append_assoc] at hx
    cases rest with
    | nil =>
      obtain ⟨fuel, rfl⟩ : ∃ n, fuel = n + 2 := ⟨fuel - 2, by omega⟩
      have htext : literalText n false (bs ++ []) = bs := by
        cases bs with
        | nil => rfl
        | cons b bs =>
          obtain ⟨hb, hbs⟩ := List.forall_mem_cons.1 hbs
          rw [List.cons_append, literalText_break hb, literalText_breaks hbs, literalText,
            List.append_nil]
      rw [htext, List.append_nil] at hx
      rw [List.append_nil]
      exact readBlockLines_last hword hline hboth hk hm hcolumn hx fuel lead empty leadBlank
    | cons c rest =>
      obtain ⟨fuel, rfl⟩ : ∃ n, fuel = n + 1 := ⟨fuel - 1, by omega⟩
      have hc : isBreak c = false := hrest c rfl
      cases bs with
      | nil =>
        have hb := hback c rfl
        rw [hc] at hb
        cases hb
      | cons b bs =>
        obtain ⟨hb, hmore⟩ := List.forall_mem_cons.1 hboth
        have htail : lastBreak (w ++ (b :: bs ++ c :: rest)) = lastBreak (c :: rest) := by
          rw [← List.append_assoc, lastBreak_append (List.cons_ne_nil c rest)]
        have hchomp : chompFor (w ++ (b :: bs ++ c :: rest)) = chompFor (c :: rest) := by
          rw [← List.append_assoc, chompFor_append hc]
        have hstops : Stops (some n) n (literalText n false (c :: rest) ++
            (lastBreak (c :: rest) ++ (List.replicate m ' ' ++ k))) := by
          intro d hd
          obtain rfl : c = d := by simpa [literalText, hc] using hd
          exact ⟨hc, fun _ => rfl⟩
        rw [htail, List.cons_append, literalText_break hb.2,
          literalText_breaks fun d hd => (hmore d hd).2, literalText_indent hc] at hx
        simp only [List.cons_append, List.append_assoc] at hx
        obtain ⟨y, hy, hend, hless, hread⟩ :=
          exists_readBlockLines_line hline hb hmore (Nat.le_refl n) hstops hx hcolumn
        have hrestFuel : (c :: rest).length < fuel := by omega
        obtain ⟨z, hmore, hz, hless', hend'⟩ := ih (List.cons_ne_nil c rest) (by simpa using hc)
          (fun d hd => hshown d (by simp only [List.mem_append]; exact .inr (.inr hd))) hend hy
          hrestFuel [b] bs (x.rest.head?.any isGap) (by omega)
        refine ⟨z, ?_, hz, Nat.lt_trans hless hless', hend'⟩
        rw [hchomp, hread, hmore]
        simp

/-! ### Blocks -/

/-- The indentation that the hints of a block tell. -/
def toldIndent (n : Nat) (cs : List Char) : Option Nat := if leadsBlank cs then some n else none

theorem toldIndent_breaks {b : Char} (hb : isBreak b = true) (n : Nat) (cs : List Char) :
    toldIndent n (b :: cs) = some n := by
  simp [toldIndent, leadsBlank, hb]

/-- The indentation is told where it could not be seen. -/
theorem stops_toldIndent {bs : List Char} {c : Char} (hbs : ∀ b ∈ bs, isBreak b = true)
    (hshown : isShown c = true) (hc : isBreak c = false) (n : Nat) (r : List Char)
    (ht : t.head? = some c) : Stops (toldIndent n (bs ++ c :: r)) n t := by
  rintro d hd
  obtain rfl : c = d := by simpa [ht] using hd
  refine ⟨hc, ?_⟩
  intro hgap
  cases bs with
  | nil =>
    rw [eq_space_of_isGap hshown hgap]
    rfl
  | cons b bs => exact toldIndent_breaks (hbs b List.mem_cons_self) n _

/-- The head of a block and the empty lines in front of its first line of text. -/
theorem exists_readBlock_head {cs bs : List Char} {o j : Nat} {x : Cursor}
    (hbs : ∀ b ∈ bs, isShown b = true ∧ isBreak b = true) (hj : j ≤ o + 2)
    (ht : Stops (toldIndent (o + 2) cs) j t)
    (hx : x.rest = literalHints cs ++ '\n' :: (bs ++ (List.replicate j ' ' ++ t))) :
    ∃ y : Cursor, y.rest = t ∧ y.column = j ∧ x.line < y.line ∧
      readBlock true (some o) x
        = readBlockLines true (chompFor cs) ((toldIndent (o + 2) cs).getD (max j (o + 1)))
            (x.rest.length + 2) [] bs false y := by
  obtain ⟨i, hhead⟩ := exists_readBlockHead cs hx
  have htold : ∀ n ∈ toldIndent (o + 2) cs, j ≤ n := by
    intro n hn
    unfold toldIndent at hn
    split at hn
    · rw [← Option.some.inj hn]
      exact hj
    · cases hn
  have hlength : bs.length < x.rest.length + 2 := by
    rw [hx]
    simp only [List.length_append, List.length_cons]
    omega
  have hempty := readEmptyLines_stops (l := x.line + 1) (i := i) hbs htold ht hlength 0 []
  refine ⟨⟨t, x.line + 1 + bs.length, j, i + bs.length + j⟩, rfl, rfl, by simp only; omega, ?_⟩
  have hmap : (if leadsBlank cs then some 2 else none).map (fun n => o + n)
      = toldIndent (o + 2) cs := by
    unfold toldIndent
    split <;> rfl
  rw [readBlock, hhead]
  simp only [Option.bind_eq_bind, Option.bind_some, Option.getD_some, Option.map_some, hmap, hempty]
  congr 1

/-- **A literal block is read**, up to a line that is indented less. -/
theorem exists_readBlock {cs k : List Char} {o m : Nat} (hne : cs ≠ [])
    (hshown : ∀ c ∈ cs, isShown c = true) (hk : Inked k) (hm : m < o + 2) {x : Cursor}
    (hx : x.rest = literalHints cs ++ '\n' :: (literalText (o + 2) true cs
      ++ (lastBreak cs ++ (List.replicate m ' ' ++ k)))) :
    ∃ y : Cursor, readBlock true (some o) x = some ⟨cs, y, false⟩ ∧
      y.rest = k ∧ x.line < y.line ∧ y.column = m := by
  obtain ⟨bs, rest, rfl, hbs, hrest⟩ := exists_span isBreak cs
  have hboth : ∀ b ∈ bs, isShown b = true ∧ isBreak b = true := by
    intro b hb
    exact ⟨hshown b (List.mem_append_left rest hb), hbs b hb⟩
  rw [literalText_breaks hbs, List.append_assoc] at hx
  cases rest with
  | nil =>
    have hbreaks : bs ≠ [] := by simpa using hne
    rw [List.append_nil, ← List.nil_append bs, lastBreak_breaks hbreaks hbs] at hx
    obtain ⟨y, hy, hend, hless, hread⟩ :=
      exists_readBlock_head hboth (Nat.le_of_lt hm) hk.stops hx
    refine ⟨y, ?_, hy, hless, hend⟩
    have htold : toldIndent (o + 2) bs = some (o + 2) := by
      cases bs with
      | nil => exact absurd rfl hbreaks
      | cons b bs => exact toldIndent_breaks (hbs b List.mem_cons_self) _ bs
    rw [hread, List.nil_append, List.append_nil, htold, Option.getD_some,
      readBlockLines_end (by omega), chompFor_only_breaks hbreaks hbs]
    rfl
  | cons c rest =>
    have hc : isBreak c = false := hrest c rfl
    have htail : lastBreak (bs ++ c :: rest) = lastBreak (c :: rest) :=
      lastBreak_append (List.cons_ne_nil c rest)
    rw [literalText_indent hc, List.append_assoc, htail] at hx
    have hstart : (literalText (o + 2) false (c :: rest)
        ++ (lastBreak (c :: rest) ++ (List.replicate m ' ' ++ k))).head? = some c := by
      simp [literalText, hc]
    have hstops := stops_toldIndent hbs (hshown c (by simp)) hc (o + 2) rest hstart
    obtain ⟨y, hy, hend, hless, hread⟩ :=
      exists_readBlock_head hboth (Nat.le_refl (o + 2)) hstops hx
    have hfuel : (c :: rest).length < x.rest.length + 2 := by
      have hlength := length_le_literalText (o + 2) false (c :: rest)
      rw [hx]
      simp only [List.length_append, List.length_cons] at hlength ⊢
      omega
    have hindent : (toldIndent (o + 2) (bs ++ c :: rest)).getD (max (o + 2) (o + 1)) = o + 2 := by
      unfold toldIndent
      split <;> simp
    obtain ⟨z, hmore, hz, hless', hend'⟩ := readBlockLines_of_shown (List.cons_ne_nil c rest)
      (by simpa using hc) (fun d hd => hshown d (List.mem_append_right bs hd)) hk hm hend hy hfuel
      [] bs false
    refine ⟨z, ?_, hz, Nat.lt_trans hless hless', hend'⟩
    rw [hread, hindent, chompFor_append hc, hmore]
    rfl

end Lines

end GuestPorts.Yaml
