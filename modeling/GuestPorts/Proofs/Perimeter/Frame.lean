/-
  GuestPorts/Proofs/Perimeter/Frame.lean
  ======================================
  **What is not in the managed block stays**, however often the block is changed
  (`edits_keep_outside`), with any sentinels and any comment marker.

  The sentinels are searched anew for every change, and a change can make new ones: a rule may
  be a sentinel or hold several lines, and a commented sentinel is one when the block is
  switched on.  All of these stand behind the opening sentinel and in front of the closing one
  of the first text, so the block that is found later begins where it began and ends there or
  before (`Block.Delimits.exists_locate`).  What lies in between is all that a change can reach
  (`Around.apply`).
-/
import GuestPorts.Proofs.Perimeter.Block

namespace GuestPorts.Perimeter

inductive Edit where
  | switch (off : Bool)
  | add (rule : Line)
  | remove (rule : Line)
  deriving DecidableEq, Repr

/-- The text behind a change; one that has no result leaves it as it is. -/
def Edit.apply (b : Block) (text : List Char) : Edit → List Char
  | .switch off => b.setCommented off text
  | .add rule => (b.addRule rule text).getD text
  | .remove rule => b.removeRule rule text

/-- The lines of a text begin and end with those around the block of another. -/
def Around (l : Located) (text : List Char) : Prop :=
  ∃ between, Text.lines text = l.before ++ between ++ l.after

section Edits

variable {b : Block} {l : Located} {text : List Char}

theorem Edit.apply_of_missing (h : b.locate (Text.lines text) = none) (e : Edit) :
    e.apply b text = text := by
  cases e with
  | switch off => simp only [apply, Block.setCommented, Block.mapInside, h]
  | add rule => simp only [apply, Block.addRule, h, Option.getD_none]
  | remove rule => simp only [apply, Block.removeRule, Block.mapInside, h]

/-- A change puts other lines in the place of those between the sentinels. -/
theorem Edit.exists_apply_eq {found : Located} (h : b.locate (Text.lines text) = some found)
    (e : Edit) :
    ∃ inside, e.apply b text = Text.unlines { found with inside := inside }.lines := by
  cases e with
  | switch off => exact ⟨_, Block.mapInside_of_locate h _⟩
  | remove rule => exact ⟨_, Block.mapInside_of_locate h _⟩
  | add rule =>
    by_cases hthere : found.inside.any (b.matchesRule rule) = true
    · refine ⟨found.inside, ?_⟩
      simp only [apply, Block.addRule, h, if_pos hthere, Option.getD_some]
      exact (Block.unlines_of_locate h).symm
    · refine ⟨found.inside ++ [if b.isInactive found then b.withMarker (Text.trim rule)
        else Text.trim rule], ?_⟩
      simp only [apply, Block.addRule, h, if_neg hthere, Option.getD_some]

/-- Lines that are joined and split again may become more, but none of those around them. -/
theorem around_unlines (hbefore : ∀ line ∈ l.before, '\n' ∉ line)
    (hafter : ∀ line ∈ l.after, '\n' ∉ line) (hne : l.after ≠ []) (between : List Line) :
    Around l (Text.unlines (l.before ++ between ++ l.after)) := by
  refine ⟨between.flatMap Text.lines, ?_⟩
  have hjoined : l.before ++ between ++ l.after ≠ [] := by simp [hne]
  calc
    Text.lines (Text.unlines (l.before ++ between ++ l.after))
        = (l.before ++ between ++ l.after).flatMap Text.lines :=
      Text.splitAt_join_eq_flatMap hjoined
    _ = l.before.flatMap Text.lines ++ between.flatMap Text.lines ++ l.after.flatMap Text.lines := by
      rw [List.flatMap_append, List.flatMap_append]
    _ = l.before ++ between.flatMap Text.lines ++ l.after := by
      congr 1
      · congr 1
        exact Text.flatMap_splitAt_of_notMem hbefore
      · exact Text.flatMap_splitAt_of_notMem hafter

/-- **One change reaches nothing but the lines in between.** -/
theorem Around.apply (h : Around l text) (hl : b.Delimits l)
    (hlines : ∀ line ∈ l.lines, '\n' ∉ line) (e : Edit) : Around l (e.apply b text) := by
  obtain ⟨between, hbetween⟩ := h
  obtain ⟨inside, rest, -, hlocate⟩ := hl.exists_locate between
  rw [← hbetween] at hlocate
  obtain ⟨inside', happly⟩ := e.exists_apply_eq hlocate
  have hbefore : ∀ line ∈ l.before, '\n' ∉ line := by
    intro line hline
    apply hlines
    simp [Located.lines, hline]
  have hafter : ∀ line ∈ l.after, '\n' ∉ line := by
    intro line hline
    apply hlines
    simp [Located.lines, hline]
  have hkept := around_unlines hbefore hafter hl.after_ne_nil (inside' ++ rest)
  rw [happly]
  simpa only [Located.lines, List.append_assoc] using hkept

theorem Around.applyAll (h : Around l text) (hl : b.Delimits l)
    (hlines : ∀ line ∈ l.lines, '\n' ∉ line) (edits : List Edit) :
    Around l (edits.foldl (Edit.apply b) text) := by
  induction edits generalizing text with
  | nil => exact h
  | cons e rest ih => exact ih (h.apply hl hlines e)

end Edits

/-- **Nothing outside the managed block is ever touched.**  Through any changes the text begins
    with the lines up to the opening sentinel that it had at first, and ends with those from the
    closing sentinel on; and a text without a block stays what it is. -/
theorem edits_keep_outside (b : Block) (text : List Char) (edits : List Edit) :
    (∀ l, Text.lines text = l.lines → b.Delimits l →
      ∃ between,
        Text.lines (edits.foldl (Edit.apply b) text) = l.before ++ between ++ l.after) ∧
      ((∀ l, Text.lines text = l.lines → ¬b.Delimits l) →
        edits.foldl (Edit.apply b) text = text) := by
  constructor
  · intro l htext hl
    have hlines : ∀ line ∈ l.lines, '\n' ∉ line := by
      intro line hline
      rw [← htext] at hline
      exact Text.notMem_of_mem_splitAt hline
    exact Around.applyAll ⟨l.inside, htext⟩ hl hlines edits
  · intro hnone
    have hmissing : b.locate (Text.lines text) = none := by
      rw [Option.eq_none_iff_forall_ne_some]
      intro l hlocate
      obtain ⟨htext, hl⟩ := Block.locate_eq_some_iff.1 hlocate
      exact hnone l htext hl
    induction edits with
    | nil => rfl
    | cons e rest ih =>
      rw [List.foldl_cons, Edit.apply_of_missing hmissing]
      exact ih

/-- A comment becomes the closing sentinel, and a rule of two lines is put in front of it. -/
theorem edits_keep_outside_end_inside :
    let text := "*nat\n#KVM_GO_START\n# #KVM_GO_END\n-A x\n#KVM_GO_END\nCOMMIT".toList
    let l : Located := ⟨["*nat".toList, "#KVM_GO_START".toList],
      ["# #KVM_GO_END".toList, "-A x".toList], ["#KVM_GO_END".toList, "COMMIT".toList]⟩
    let edits := [Edit.switch false, .add "-A y\n#KVM_GO_START".toList, .remove "-A x".toList]
    (Text.lines text = l.lines ∧ ({} : Block).Delimits l) ∧
      ∃ between,
        Text.lines (edits.foldl (Edit.apply {}) text) = l.before ++ between ++ l.after := by
  intro text l edits
  have htext : Text.lines text = l.lines := by decide +kernel
  have hl : ({} : Block).Delimits l :=
    (Block.locate_eq_some_iff.1 (by decide +kernel : ({} : Block).locate l.lines = some l)).2
  exact ⟨⟨htext, hl⟩, (edits_keep_outside {} text edits).1 l htext hl⟩

end GuestPorts.Perimeter
