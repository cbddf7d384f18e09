/-
  GuestPorts/Proofs/Yaml/Style.lean
  =================================
  **The style of a text suits it** (`styleFor_cases`).

  A text that is written plain is a sequence of words, one in single quotes keeps its spaces
  away from its line ends, and one in a literal block shows as itself; double quotes take
  any text.
-/
import GuestPorts.Proofs.Yaml.Literal
import GuestPorts.Proofs.Yaml.Plain
import GuestPorts.Proofs.Yaml.Quoted

namespace GuestPorts.Yaml

theorem shown_of_special {cs : List Char} (h : (traits cs).special = false) :
    ∀ c ∈ cs, isShown c = true := by
  have hall : (!cs.all isShown) = false := h
  rw [Bool.not_eq_false', List.all_eq_true] at hall
  exact hall

/-- The quotes that a text is put into. -/
def quoteStyle (t : Traits) : Style :=
  if t.special || t.spaceThenBreak || t.breakThenSpace then .double else .single

theorem quoteStyle_cases {cs : List Char} (hfeed : '\n' ∉ cs) :
    quoteStyle (traits cs) = .double ∨ quoteStyle (traits cs) = .single ∧ FitsSingle cs := by
  unfold quoteStyle
  split
  · exact .inl rfl
  · next h =>
    simp only [Bool.or_eq_true, not_or, Bool.not_eq_true] at h
    obtain ⟨⟨hspecial, hbefore⟩, hafter⟩ := h
    exact .inr ⟨rfl, shown_of_special hspecial, hfeed, hbefore, hafter⟩

/-- In front of a text that starts well a space changes nothing. -/
theorem endsEarly_space {cs : List Char} (hstart : startsBadly cs = false)
    (hend : endsEarly cs = false) : endsEarly (' ' :: cs) = false := by
  cases cs with
  | nil => rfl
  | cons c r =>
    simp only [startsBadly, Bool.or_eq_false_iff] at hstart
    obtain ⟨-, hindicator, hmark⟩ := hstart
    by_cases hcolon : c = ':'
    · subst hcolon
      have hgap : atGap r = false := by simpa using hmark
      have hstep : endsEarly (' ' :: ':' :: r) = (atGap r || endsEarly (':' :: r)) := rfl
      rw [hstep, hgap, hend]
      rfl
    · by_cases hcomment : c = '#'
      · subst hcomment
        exact absurd hindicator (by decide)
      · have hstep : endsEarly (' ' :: c :: r) = (false || endsEarly (c :: r)) := by
          simp [endsEarly, hcolon, hcomment]
        rw [hstep, hend]
        rfl

theorem fitsPlain_of_traits {cs : List Char} (htext : isText cs = true)
    (hspecial : (traits cs).special = false) (hbroken : (traits cs).broken = false)
    (houter : (traits cs).outerBlank = false) (hmarked : (traits cs).marked = false) :
    FitsPlain cs ∧ startsBadly cs = false := by
  have houter : (cs.head?.any fun c => c = ' ' || isBreak c) = false ∧
      (cs.getLast?.any fun c => c = ' ' || isBreak c) = false := Bool.or_eq_false_iff.1 houter
  obtain ⟨hstart, hend⟩ : startsBadly cs = false ∧ endsEarly cs = false :=
    Bool.or_eq_false_iff.1 hmarked
  refine ⟨⟨?_, shown_of_special hspecial, ?_, ?_, ?_, endsEarly_space hstart hend⟩, hstart⟩
  · rintro rfl
    cases htext
  · have hall : cs.any isBreak = false := hbroken
    simpa using hall
  · intro hfirst
    simp [hfirst] at houter
  · intro hlast
    simp [hlast] at houter

/-- What the style of a text says about it. -/
theorem styleFor_cases (cs : List Char) :
    (styleFor cs = .plain ∧ FitsPlain cs ∧ startsBadly cs = false ∧ isText cs = true) ∨
    (styleFor cs = .single ∧ FitsSingle cs) ∨ styleFor cs = .double ∨
    (styleFor cs = .literal ∧ cs ≠ [] ∧ ∀ c ∈ cs, isShown c = true) := by
  have hstyle : styleFor cs =
      if cs.contains '\n' then
        (if (traits cs).special || (traits cs).spaceThenBreak || (traits cs).trailingSpace then .double
          else .literal)
      else if isAmbiguous cs then quoteStyle (traits cs)
      else if (traits cs).special || (traits cs).broken || (traits cs).outerBlank
          || (traits cs).marked then quoteStyle (traits cs)
      else .plain := rfl
  rw [hstyle]
  by_cases hfeed : cs.contains '\n' = true
  · rw [if_pos hfeed]
    split
    · exact .inr (.inr (.inl rfl))
    · next h =>
      simp only [Bool.or_eq_true, not_or, Bool.not_eq_true] at h
      refine .inr (.inr (.inr ⟨rfl, ?_, shown_of_special h.1.1⟩))
      rintro rfl
      cases hfeed
  · rw [if_neg hfeed]
    have hquotes : quoteStyle (traits cs) = .double ∨
        quoteStyle (traits cs) = .single ∧ FitsSingle cs :=
      quoteStyle_cases fun hmem => hfeed (List.contains_iff_mem.2 hmem)
    have hquoted : (quoteStyle (traits cs) = .single ∧ FitsSingle cs) ∨
        quoteStyle (traits cs) = .double ∨
        (quoteStyle (traits cs) = .literal ∧ cs ≠ [] ∧ ∀ c ∈ cs, isShown c = true) := by
      rcases hquotes with h | h
      · exact .inr (.inl h)
      · exact .inl h
    by_cases hambiguous : isAmbiguous cs = true
    · rw [if_pos hambiguous]
      exact .inr hquoted
    · rw [if_neg hambiguous]
      split
      · exact .inr hquoted
      · next h =>
        simp only [Bool.or_eq_true, not_or, Bool.not_eq_true] at h
        obtain ⟨⟨⟨hspecial, hbroken⟩, houter⟩, hmarked⟩ := h
        have htext : isText cs = true := by
          simp only [isAmbiguous, Bool.or_eq_true, not_or, Bool.not_eq_true,
            Bool.not_eq_false'] at hambiguous
          exact hambiguous.1.1
        obtain ⟨hfits, hstart⟩ := fitsPlain_of_traits htext hspecial hbroken houter hmarked
        exact .inl ⟨rfl, hfits, hstart, htext⟩

/-! ### What is written in each style -/

section Written

variable {cs : List Char}

theorem writeScalar_plain (h : styleFor cs = .plain) (n : Nat) :
    writeScalar n cs = cs ++ ['\n'] := by
  rw [writeScalar, h]

theorem writeScalar_single (h : styleFor cs = .single) (n : Nat) :
    writeScalar n cs = quoteMark true :: (singleText n false cs ++ [quoteMark true, '\n']) := by
  rw [writeScalar, h]
  rfl

theorem writeScalar_double (h : styleFor cs = .double) (n : Nat) :
    writeScalar n cs = quoteMark false :: (cs.flatMap (spell false) ++ [quoteMark false, '\n']) := by
  rw [writeScalar, h]
  rfl

theorem writeScalar_literal (h : styleFor cs = .literal) (n : Nat) :
    writeScalar n cs
      = '|' :: (literalHints cs ++ '\n' :: (literalText n true cs ++ lastBreak cs)) := by
  rw [writeScalar, h]
  simp [lastBreak]

end Written

end GuestPorts.Yaml
