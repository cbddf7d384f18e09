/-
  GuestPorts/Proofs/Perimeter/Insertion.lean
  ==========================================
  **Rules that are added to a block of any lines.**

  A rule is put behind the inner lines unless it matches one of them, and it is shown as the
  block is: plain when a line of the block is, commented when none is.  An added line is
  commented exactly when the block is off, so adding never switches the block
  (`isOff_insertRule`), and all the rules of one call are shown alike
  (`mem_of_mem_foldl_insertRule`).
-/
import GuestPorts.Perimeter.Service
import GuestPorts.Proofs.Perimeter.Toggle

namespace GuestPorts.Perimeter

namespace Block

/-- Whether a block with these inner lines is off. -/
def isOff (inside : List Line) : Bool := Block.usual.isInactive ⟨[], inside, []⟩

def insertRule (inside : List Line) (rule : Line) : List Line :=
  if inside.any (Block.usual.matchesRule rule) then inside
  else inside ++ [shown (!isOff inside) rule]

variable {inside rules : List Line} {line rule : Line}

/-! ### On or off -/

theorem isOff_eq_true_iff : isOff inside = true ↔
    ∀ line ∈ inside, Text.trim line ≠ [] → Block.usual.isLineCommented line = true := by
  simp [isOff, isInactive, Located.filled, or_iff_not_imp_left]

theorem isOff_eq_false_iff : isOff inside = false ↔
    ∃ line ∈ inside, Text.trim line ≠ [] ∧ Block.usual.isLineCommented line = false := by
  rw [← Bool.not_eq_true, isOff_eq_true_iff]
  simp

theorem isOff_append_shown (h : IsRule rule) :
    isOff (inside ++ [shown (!isOff inside) rule]) = isOff inside := by
  have hcommented := h.tidy.isLineCommented_shown h.trim_ne_nil (!isOff inside)
  rw [Bool.not_not] at hcommented
  cases hoff : isOff inside with
  | true =>
    rw [hoff] at hcommented
    rw [isOff_eq_true_iff] at hoff ⊢
    intro line hline hne
    rcases List.mem_append.1 hline with hold | hnew
    · exact hoff line hold hne
    · rw [List.mem_singleton.1 hnew]
      exact hcommented
  | false =>
    rw [isOff_eq_false_iff] at hoff ⊢
    obtain ⟨line, hline, hplain⟩ := hoff
    exact ⟨line, List.mem_append_left _ hline, hplain⟩

/-- Adding a rule does not switch the block. -/
theorem isOff_insertRule (h : IsRule rule) : isOff (insertRule inside rule) = isOff inside := by
  unfold insertRule
  split
  · rfl
  · exact isOff_append_shown h

theorem isOff_foldl_insertRule (h : ∀ rule ∈ rules, IsRule rule) :
    isOff (rules.foldl insertRule inside) = isOff inside := by
  induction rules generalizing inside with
  | nil => rfl
  | cons rule rest ih =>
    rw [List.foldl_cons, ih fun x hx => h x (List.mem_cons_of_mem rule hx)]
    exact isOff_insertRule (h rule List.mem_cons_self)

/-! ### Which lines there are -/

theorem exists_insertRule_eq (inside : List Line) (rule : Line) :
    ∃ added, insertRule inside rule = inside ++ added ∧
      ∀ line ∈ added, line = shown (!isOff inside) rule := by
  unfold insertRule
  split
  · exact ⟨[], (List.append_nil inside).symm, nofun⟩
  · exact ⟨_, rfl, fun line hline => List.mem_singleton.1 hline⟩

theorem prefix_insertRule (inside : List Line) (rule : Line) :
    inside <+: insertRule inside rule := by
  obtain ⟨added, hadded, -⟩ := exists_insertRule_eq inside rule
  exact ⟨added, hadded.symm⟩

theorem prefix_foldl_insertRule (inside rules : List Line) :
    inside <+: rules.foldl insertRule inside := by
  induction rules generalizing inside with
  | nil => exact List.prefix_refl _
  | cons rule rest ih => exact (prefix_insertRule inside rule).trans (ih _)

theorem mem_of_mem_insertRule (h : line ∈ insertRule inside rule) :
    line ∈ inside ∨ line = shown (!isOff inside) rule := by
  obtain ⟨added, hadded, hshown⟩ := exists_insertRule_eq inside rule
  rw [hadded] at h
  rcases List.mem_append.1 h with hold | hnew
  · exact .inl hold
  · exact .inr (hshown line hnew)

/-- **Added rules stand behind the lines that are there**, each shown as the block is. -/
theorem exists_foldl_insertRule_eq (hrules : ∀ rule ∈ rules, IsRule rule) (inside : List Line) :
    ∃ added, rules.foldl insertRule inside = inside ++ added ∧
      ∀ line ∈ added, ∃ rule ∈ rules, line = shown (!isOff inside) rule := by
  induction rules generalizing inside with
  | nil => exact ⟨[], (List.append_nil inside).symm, nofun⟩
  | cons rule rest ih =>
    have hrule := hrules rule List.mem_cons_self
    obtain ⟨first, hfirst, hshown⟩ := exists_insertRule_eq inside rule
    obtain ⟨more, hmore, hmoreShown⟩ :=
      ih (fun x hx => hrules x (List.mem_cons_of_mem rule hx)) (insertRule inside rule)
    rw [isOff_insertRule hrule] at hmoreShown
    refine ⟨first ++ more, ?_, ?_⟩
    · rw [List.foldl_cons, hmore, hfirst, List.append_assoc]
    · intro line hline
      rcases List.mem_append.1 hline with hmem | hmem
      · exact ⟨rule, List.mem_cons_self, hshown line hmem⟩
      · obtain ⟨x, hx, hline⟩ := hmoreShown line hmem
        exact ⟨x, List.mem_cons_of_mem rule hx, hline⟩

/-- A line is there from before, or it is one of the rules, shown as the block is. -/
theorem mem_of_mem_foldl_insertRule (hrules : ∀ rule ∈ rules, IsRule rule)
    (h : line ∈ rules.foldl insertRule inside) :
    line ∈ inside ∨ ∃ rule ∈ rules, line = shown (!isOff inside) rule := by
  obtain ⟨added, hadded, hshown⟩ := exists_foldl_insertRule_eq hrules inside
  rw [hadded] at h
  rcases List.mem_append.1 h with hold | hnew
  · exact .inl hold
  · exact .inr (hshown line hnew)

theorem exists_matchesRule_insertRule (h : IsRule rule) (inside : List Line) :
    ∃ line ∈ insertRule inside rule, Block.usual.matchesRule rule line = true := by
  unfold insertRule
  split
  · next hany => exact List.any_eq_true.1 hany
  · exact ⟨_, List.mem_append_right _ (List.mem_singleton_self _), h.matchesRule_shown _⟩

/-- Each of the rules is there afterwards, whether it was before or not. -/
theorem exists_matchesRule_foldl_insertRule (hrules : ∀ rule ∈ rules, IsRule rule)
    (h : rule ∈ rules) (inside : List Line) :
    ∃ line ∈ rules.foldl insertRule inside, Block.usual.matchesRule rule line = true := by
  induction rules generalizing inside with
  | nil => cases h
  | cons first rest ih =>
    rcases List.mem_cons.1 h with rfl | hrest
    · obtain ⟨line, hline, hmatches⟩ :=
        exists_matchesRule_insertRule (hrules rule List.mem_cons_self) inside
      exact ⟨line, (prefix_foldl_insertRule _ rest).subset hline, hmatches⟩
    · exact ih (fun x hx => hrules x (List.mem_cons_of_mem first hx)) hrest _

/-! ### In the text -/

theorem addRule_of_locate {text : List Char} {found : Located}
    (h : Block.usual.locate (Text.lines text) = some found) (hrule : IsRule rule) :
    Block.usual.addRule rule text
      = some (Text.unlines { found with inside := insertRule found.inside rule }.lines) := by
  have hoff : Block.usual.isInactive found = isOff found.inside := rfl
  simp only [addRule, h, hrule.trimmed, hoff]
  unfold insertRule
  by_cases hany : found.inside.any (Block.usual.matchesRule rule) = true
  · simp only [if_pos hany]
    rw [unlines_of_locate h]
  · have hshown : (if isOff found.inside = true then Block.usual.withMarker rule else rule)
        = shown (!isOff found.inside) rule := by
      cases isOff found.inside with
      | true => exact (shown_false hrule.trim_ne_nil).symm
      | false => exact (shown_true rule).symm
    simp only [if_neg hany, hshown]

/-- The block is where it was when a rule has been added. -/
theorem withRule_of_locate {text rule : String} {found : Located}
    (h : Block.usual.locate (Text.lines text.toList) = some found) (hrule : IsRule rule.toList) :
    ∃ after, Block.usual.withRule text rule = .ok after ∧
      Block.usual.locate (Text.lines after.toList)
        = some { found with inside := insertRule found.inside rule.toList } := by
  have hdelimits := (locate_eq_some_iff.1 h).2
  have hinside : ∀ line ∈ insertRule found.inside rule.toList,
      isSentinel Block.usual.endMarker line = false := by
    intro line hline
    rcases mem_of_mem_insertRule hline with hold | rfl
    · exact hdelimits.inside line hold
    · exact hrule.tidy.isSentinel_shown _
  have hadded : Block.usual.withRule text rule = .ok (String.ofList (Text.unlines
      { found with inside := insertRule found.inside rule.toList }.lines)) := by
    simp only [withRule, addRule_of_locate h hrule]
  refine ⟨_, hadded, ?_⟩
  rw [String.toList_ofList]
  apply (hdelimits.edit hinside).locate_unlines
  apply notMem_of_edit h
  intro line hline
  rcases mem_of_mem_insertRule hline with hold | rfl
  · exact notMem_of_mem_inside h line hold
  · exact hrule.tidy.notMem_shown _

/-- **Adding rules succeeds where there is a block**, and leaves the block where it was. -/
theorem withRules_of_locate {text : String} {found : Located}
    (h : Block.usual.locate (Text.lines text.toList) = some found) {rs : List String}
    (hrs : ∀ rule ∈ rs, IsRule rule.toList) :
    ∃ after, Block.usual.withRules rs text = .ok after ∧
      Block.usual.locate (Text.lines after.toList)
        = some { found with inside := (rs.map String.toList).foldl insertRule found.inside } := by
  unfold withRules
  induction rs generalizing text found with
  | nil => exact ⟨text, rfl, h⟩
  | cons rule rest ih =>
    obtain ⟨next, hnext, hfound⟩ := withRule_of_locate h (hrs rule List.mem_cons_self)
    obtain ⟨after, hafter, hlast⟩ := ih hfound fun x hx => hrs x (List.mem_cons_of_mem rule hx)
    refine ⟨after, ?_, hlast⟩
    rw [List.foldlM_cons, hnext, Except.ok_bind]
    exact hafter

end Block

end GuestPorts.Perimeter
