/-
  GuestPorts/Proofs/Text/Split.lean
  =================================
  **Splitting undoes joining**, when no piece holds the separator.

  `Text.join_splitAt` is the other direction and needs no condition.  Together they say
  that a text made of pieces can be read back piece by piece (`splitAt_join`).
-/
import GuestPorts.Text.Basic

namespace GuestPorts.Text

theorem splitAt_of_notMem {sep : Char} {cs : List Char} (h : sep ∉ cs) :
    splitAt sep cs = [cs] := by
  induction cs with
  | nil => rfl
  | cons c r ih =>
    have hc : c ≠ sep := fun he => h (he ▸ List.mem_cons_self)
    have hr : sep ∉ r := fun hmem => h (List.mem_cons_of_mem _ hmem)
    simp only [splitAt, if_neg hc, ih hr]

/-- The first separator ends the first piece. -/
theorem splitAt_append_sep {sep : Char} {piece : List Char} (h : sep ∉ piece)
    (rest : List Char) :
    splitAt sep (piece ++ sep :: rest) = piece :: splitAt sep rest := by
  induction piece with
  | nil => simp [splitAt]
  | cons c r ih =>
    have hc : c ≠ sep := fun he => h (he ▸ List.mem_cons_self)
    have hr : sep ∉ r := fun hmem => h (List.mem_cons_of_mem _ hmem)
    simp only [List.cons_append, splitAt, if_neg hc, ih hr]

/-- A separator is the end of one piece and the beginning of another, wherever it stands. -/
theorem splitAt_append (sep : Char) (front rest : List Char) :
    splitAt sep (front ++ sep :: rest) = splitAt sep front ++ splitAt sep rest := by
  induction front with
  | nil => simp [splitAt]
  | cons c r ih =>
    by_cases hc : c = sep
    · simp only [List.cons_append, splitAt, if_pos hc, ih]
    · simp only [List.cons_append, splitAt, if_neg hc, ih]
      cases hr : splitAt sep r with
      | nil => exact absurd hr (splitAt_ne_nil sep r)
      | cons piece pieces => rfl

/-- Splitting what was joined splits each piece by itself. -/
theorem splitAt_join_eq_flatMap {sep : Char} {pieces : List (List Char)} (hne : pieces ≠ []) :
    splitAt sep (join [sep] pieces) = pieces.flatMap (splitAt sep) := by
  induction pieces with
  | nil => exact absurd rfl hne
  | cons piece rest ih =>
    cases rest with
    | nil => simp [join]
    | cons next more =>
      rw [join, List.append_assoc, List.singleton_append, splitAt_append,
        ih (List.cons_ne_nil _ _), List.flatMap_cons (x := piece)]

theorem flatMap_splitAt_of_notMem {sep : Char} {pieces : List (List Char)}
    (h : ∀ piece ∈ pieces, sep ∉ piece) : pieces.flatMap (splitAt sep) = pieces := by
  induction pieces with
  | nil => rfl
  | cons piece rest ih =>
    obtain ⟨hpiece, hrest⟩ := List.forall_mem_cons.1 h
    rw [List.flatMap_cons, splitAt_of_notMem hpiece, ih hrest, List.singleton_append]

/-- **Splitting gives back the pieces that were joined.** -/
theorem splitAt_join {sep : Char} {pieces : List (List Char)} (hne : pieces ≠ [])
    (h : ∀ piece ∈ pieces, sep ∉ piece) : splitAt sep (join [sep] pieces) = pieces := by
  rw [splitAt_join_eq_flatMap hne, flatMap_splitAt_of_notMem h]

theorem lines_unlines {ls : List (List Char)} (hne : ls ≠ []) (h : ∀ line ∈ ls, '\n' ∉ line) :
    lines (unlines ls) = ls := splitAt_join hne h

/-- No piece holds the separator. -/
theorem notMem_of_mem_splitAt {sep : Char} {cs piece : List Char} (h : piece ∈ splitAt sep cs) :
    sep ∉ piece := by
  induction cs generalizing piece with
  | nil =>
    simp only [splitAt, List.mem_singleton] at h
    simp [h]
  | cons c r ih =>
    simp only [splitAt] at h
    split at h
    · rcases List.mem_cons.1 h with rfl | hrest
      · simp
      · exact ih hrest
    · next hc =>
      split at h
      · next hnil => exact absurd hnil (splitAt_ne_nil sep r)
      · next first pieces hsplit =>
        rw [hsplit] at ih
        rcases List.mem_cons.1 h with rfl | hrest
        · intro hmem
          rcases List.mem_cons.1 hmem with rfl | hmem
          · exact hc rfl
          · exact ih List.mem_cons_self hmem
        · exact ih (List.mem_cons_of_mem first hrest)

theorem mem_join_iff {c : Char} {sep : List Char} (hc : c ∉ sep) {pieces : List (List Char)} :
    c ∈ join sep pieces ↔ ∃ piece ∈ pieces, c ∈ piece := by
  induction pieces with
  | nil => simp [join]
  | cons piece rest ih =>
    cases rest with
    | nil => simp [join]
    | cons next more => simp [join, hc, ih]

theorem infix_join_of_mem {sep piece : List Char} {pieces : List (List Char)}
    (h : piece ∈ pieces) : piece <:+: join sep pieces := by
  induction pieces with
  | nil => cases h
  | cons first rest ih =>
    cases rest with
    | nil =>
      obtain rfl := List.mem_singleton.1 h
      exact List.infix_rfl
    | cons next more =>
      rw [join]
      rcases List.mem_cons.1 h with rfl | hrest
      · rw [List.append_assoc]
        exact (List.prefix_append _ _).isInfix
      · exact (ih hrest).trans (List.suffix_append _ _).isInfix

theorem infix_of_mem_splitAt {sep : Char} {cs piece : List Char} (h : piece ∈ splitAt sep cs) :
    piece <:+: cs := by
  rw [← join_splitAt sep cs]
  exact infix_join_of_mem h

/-- A character that is no separator is in one of the pieces. -/
theorem exists_mem_splitAt_iff {c sep : Char} (hc : c ≠ sep) {cs : List Char} :
    (∃ piece ∈ splitAt sep cs, c ∈ piece) ↔ c ∈ cs := by
  have hsep : c ∉ [sep] := by simpa using hc
  rw [← mem_join_iff hsep, join_splitAt]

theorem joined_cons_cons (sep first second : String) (rest : List String) :
    joined sep (first :: second :: rest) = first ++ sep ++ joined sep (second :: rest) := by
  rw [← String.toList_inj]
  simp [joined, join]

theorem hasPart_iff_infix {part cs : List Char} : hasPart part cs = true ↔ part <:+: cs := by
  induction cs with
  | nil => simp [hasPart]
  | cons c r ih => simp [hasPart, List.infix_cons_iff, ih]

theorem prefix_cons_of_notMem {part rest : List Char} {c : Char} (h : c ∉ part)
    (hfront : part <+: c :: rest) : part = [] := by
  rcases List.prefix_cons_iff.1 hfront with rfl | ⟨tail, rfl, -⟩
  · rfl
  · exact absurd List.mem_cons_self h

theorem infix_cons_of_notMem_iff {part rest : List Char} {c : Char} (h : c ∉ part) :
    part <:+: c :: rest ↔ part <:+: rest := by
  rw [List.infix_cons_iff]
  constructor
  · rintro (hcons | hrest)
    · rw [prefix_cons_of_notMem h hcons]
      exact List.nil_infix
    · exact hrest
  · exact .inr

/-- A part without a character stands on one side of it. -/
theorem infix_append_cons_iff {part front rest : List Char} {c : Char} (h : c ∉ part) :
    part <:+: front ++ c :: rest ↔ part <:+: front ∨ part <:+: rest := by
  rw [List.infix_append_iff, infix_cons_of_notMem_iff h]
  constructor
  · rintro (hfront | hrest | ⟨left, right, rfl, hleft, hright⟩)
    · exact .inl hfront
    · exact .inr hrest
    · have hnil := prefix_cons_of_notMem (fun hmem => h (List.mem_append_right _ hmem)) hright
      rw [hnil, List.append_nil]
      exact .inl hleft.isInfix
  · rintro (hfront | hrest)
    · exact .inl hfront
    · exact .inr (.inl hrest)

theorem cutAt_eq_some_iff {sep : Char} {cs front rest : List Char} :
    cutAt sep cs = some (front, rest) ↔ sep ∉ front ∧ cs = front ++ sep :: rest := by
  induction cs generalizing front with
  | nil => simp [cutAt]
  | cons c r ih =>
    by_cases hc : c = sep
    · subst hc
      rw [cutAt, if_pos rfl]
      cases front with
      | nil => simp
      | cons first front =>
        constructor
        · intro h
          cases h
        · rintro ⟨hsep, heq⟩
          obtain ⟨rfl, -⟩ := List.cons.inj heq
          exact absurd List.mem_cons_self hsep
    · rw [cutAt, if_neg hc]
      constructor
      · intro h
        obtain ⟨⟨front, rest⟩, hr, heq⟩ := Option.map_eq_some_iff.1 h
        cases heq
        obtain ⟨hsep, rfl⟩ := ih.1 hr
        exact ⟨by simp [hsep, Ne.symm hc], rfl⟩
      · rintro ⟨hsep, heq⟩
        cases front with
        | nil => exact absurd (List.cons.inj heq).1 hc
        | cons first front =>
          obtain ⟨rfl, hr⟩ := List.cons.inj heq
          have hfront : sep ∉ front := fun hmem => hsep (List.mem_cons_of_mem _ hmem)
          rw [ih.2 ⟨hfront, hr⟩]
          rfl

theorem cutAt_append_sep {sep : Char} {front : List Char} (h : sep ∉ front) (rest : List Char) :
    cutAt sep (front ++ sep :: rest) = some (front, rest) := cutAt_eq_some_iff.2 ⟨h, rfl⟩

theorem cutAt_eq_none_iff {sep : Char} {cs : List Char} : cutAt sep cs = none ↔ sep ∉ cs := by
  constructor
  · intro hnone hmem
    obtain ⟨front, rest, rfl, hfront⟩ := List.eq_append_cons_of_mem hmem
    rw [cutAt_append_sep hfront] at hnone
    cases hnone
  · intro h
    cases hcut : cutAt sep cs with
    | none => rfl
    | some sides =>
      obtain ⟨-, rfl⟩ := cutAt_eq_some_iff.1 hcut
      exact absurd (List.mem_append_right _ List.mem_cons_self) h

theorem length_splitAt (sep : Char) (cs : List Char) :
    (splitAt sep cs).length = cs.count sep + 1 := by
  induction cs with
  | nil => rfl
  | cons c r ih =>
    by_cases hc : c = sep
    · rw [splitAt, if_pos hc, List.length_cons, ih, hc, List.count_cons_self]
    · rw [splitAt, if_neg hc, List.count_cons_of_ne hc]
      cases hr : splitAt sep r with
      | nil => exact absurd hr (splitAt_ne_nil sep r)
      | cons piece pieces =>
        rw [hr] at ih
        exact ih

/-- Where a part and the character behind it stand: at the first such character, or behind it. -/
theorem infix_append_cons_of_notMem_iff {part front rest : List Char} {c : Char} (hpart : c ∉ part)
    (hfront : c ∉ front) :
    part ++ [c] <:+: front ++ c :: rest ↔ part <:+ front ∨ part ++ [c] <:+: rest := by
  have hbegins : ∀ {cs}, c ∉ cs → (part ++ [c] <+: cs ++ c :: rest ↔ part = cs) := by
    intro cs hcs
    constructor
    · rintro ⟨back, hback⟩
      rw [List.append_assoc, List.singleton_append] at hback
      have hcut := congrArg (cutAt c) hback
      rw [cutAt_append_sep hpart, cutAt_append_sep hcs] at hcut
      exact congrArg Prod.fst (Option.some.inj hcut)
    · rintro rfl
      exact ⟨rest, by simp⟩
  induction front with
  | nil =>
    have hnil := hbegins hfront
    rw [List.nil_append] at hnil
    rw [List.nil_append, List.infix_cons_iff, hnil, List.suffix_nil]
  | cons x xs ih =>
    have hxs : c ∉ xs := fun hmem => hfront (List.mem_cons_of_mem x hmem)
    rw [List.cons_append, List.infix_cons_iff, ← List.cons_append, hbegins hfront,
      List.suffix_cons_iff, or_assoc]
    exact or_congr_right (ih hxs)

end GuestPorts.Text
