/-
  GuestPorts/Proofs/Perimeter/Line.lean
  =====================================
  **A line of the managed block** while the block is on and while it is off.

  A filled line is hidden behind a marker and a blank while the block is off (`shown`).  For
  lines that are no comments themselves (`Tidy`) nothing is lost by that: the line comes back
  when the block is switched on (`Tidy.uncommentLine_shown`), it is the same rule in both
  states (`Tidy.matchesRule_shown`), and in none of them it closes the block
  (`Tidy.isSentinel_shown`).  The lines of a declaration are such lines (`exists_rules_eq`).
-/
import GuestPorts.Proofs.Perimeter.Block
import GuestPorts.Proofs.Perimeter.Reach
import GuestPorts.Proofs.Text.Blank

namespace GuestPorts.Perimeter

abbrev Block.usual : Block := {}

/-! ### One line, shown or hidden -/

/-- A line as it stands in a block that is on or off. -/
def shown (active : Bool) (line : Line) : Line :=
  if active || (Text.trim line).isEmpty then line else '#' :: ' ' :: line

/-- A line that is blank, or stands at the left and is no comment. -/
structure Tidy (line : Line) : Prop where
  oneLine : '\n' ∉ line
  flush : Text.trim line ≠ [] → Text.trimStart line = line
  plain : Text.trim line ≠ [] → Block.usual.isLineCommented line = false

theorem shown_of_blank {line : Line} (h : Text.trim line = []) (active : Bool) :
    shown active line = line := by
  simp [shown, h]

theorem shown_true (line : Line) : shown true line = line := by
  simp [shown]

theorem shown_false {line : Line} (h : Text.trim line ≠ []) :
    shown false line = '#' :: ' ' :: line := by
  simp [shown, h]

theorem trimStart_comment (rest : List Char) : Text.trimStart ('#' :: rest) = '#' :: rest :=
  Text.trimStart_eq_self (by simp; decide)

namespace Tidy

variable {line : Line}

theorem isLineCommented_eq_false (h : Tidy line) : Block.usual.isLineCommented line = false := by
  by_cases hblank : Text.trim line = []
  · rw [Block.isLineCommented, Text.trimStart_eq_nil_of_trim hblank]
    rfl
  · exact h.plain hblank

/-- A line that is no comment is no sentinel. -/
theorem trim_ne_comment (h : Tidy line) (rest : List Char) : Text.trim line ≠ '#' :: rest := by
  intro hrest
  have hne : Text.trim line ≠ [] := by simp [hrest]
  obtain ⟨back, hback⟩ := Text.isPrefix_trimEnd (Text.trimStart line)
  have hprefix : Block.usual.commentMarker.toList <+: Text.trimStart line := by
    refine ⟨rest ++ back, ?_⟩
    rw [← hback, ← Text.trim, hrest]
    rfl
  have hplain := h.plain hne
  rw [Block.isLineCommented, List.isPrefixOf_iff_prefix.2 hprefix] at hplain
  cases hplain

theorem trim_shown_false (h : Tidy line) (hne : Text.trim line ≠ []) :
    Text.trim (shown false line) = '#' :: ' ' :: Text.trim line := by
  have hend := Text.trim_eq_trimEnd (h.flush hne)
  rw [shown_false hne, Text.trim_eq_trimEnd (trimStart_comment _), hend]
  rw [hend] at hne
  exact Text.trimEnd_append ['#', ' '] hne

theorem trim_shown_eq_nil_iff (h : Tidy line) (active : Bool) :
    Text.trim (shown active line) = [] ↔ Text.trim line = [] := by
  by_cases hblank : Text.trim line = []
  · rw [shown_of_blank hblank]
  · cases active with
    | true => rw [shown_true]
    | false => simp [h.trim_shown_false hblank, hblank]

theorem notMem_shown (h : Tidy line) (active : Bool) : '\n' ∉ shown active line := by
  unfold shown
  split
  · exact h.oneLine
  · simp [h.oneLine]

theorem isLineCommented_shown (h : Tidy line) (hne : Text.trim line ≠ []) (active : Bool) :
    Block.usual.isLineCommented (shown active line) = !active := by
  cases active with
  | true => rw [shown_true, h.plain hne, Bool.not_true]
  | false =>
    rw [shown_false hne, Block.isLineCommented, trimStart_comment]
    rfl

theorem commentLine_shown (h : Tidy line) (active : Bool) :
    Block.usual.commentLine (shown active line) = shown false line := by
  unfold Block.commentLine
  by_cases hblank : Text.trim line = []
  · simp [shown_of_blank hblank, hblank]
  · have hshown : Text.trim (shown active line) ≠ [] := by
      rwa [Ne, h.trim_shown_eq_nil_iff active]
    rw [h.isLineCommented_shown hblank active]
    cases active with
    | true => simp [shown_true, shown_false hblank, hblank, Block.withMarker]
    | false => simp

theorem uncommentLine_shown (h : Tidy line) (active : Bool) :
    Block.usual.uncommentLine (shown active line) = shown true line := by
  have hline : Block.usual.uncommentLine line = line :=
    Block.uncommentLine_of_not_commented h.isLineCommented_eq_false
  rw [shown_true]
  by_cases hblank : Text.trim line = []
  · rw [shown_of_blank hblank, hline]
  · cases active with
    | true => rw [shown_true, hline]
    | false =>
      rw [shown_false hblank, Block.uncommentLine, trimStart_comment]
      rfl

/-- No shown line closes the block: a plain line does not begin like the sentinel, and in a
    hidden one a blank follows the marker. -/
theorem isSentinel_shown (h : Tidy line) (active : Bool) :
    Block.isSentinel Block.usual.endMarker (shown active line) = false := by
  have hmarker : Block.usual.endMarker.toList = '#' :: "KVM_GO_END".toList := by decide
  unfold Block.isSentinel
  rw [hmarker, beq_eq_false_iff_ne]
  by_cases hblank : Text.trim line = []
  · simp [shown_of_blank hblank, hblank]
  · cases active with
    | true =>
      rw [shown_true]
      exact h.trim_ne_comment _
    | false =>
      rw [h.trim_shown_false hblank]
      simp

/-- A rule is found whether its line is shown or hidden. -/
theorem matchesRule_shown (h : Tidy line) {rule : Line} (hrule : Tidy rule)
    (active : Bool) :
    Block.usual.matchesRule rule (shown active line) = (Text.trim line == Text.trim rule) := by
  have hplain : Text.trim line ≠ '#' :: ' ' :: Text.trim rule := h.trim_ne_comment _
  change (Text.trim (shown active line) == Text.trim rule
    || Text.trim (shown active line) == '#' :: ' ' :: Text.trim rule) = _
  by_cases hblank : Text.trim line = []
  · simp [shown_of_blank hblank, hblank]
  · cases active with
    | true => simp [shown_true, hplain]
    | false =>
      have hcomment : '#' :: ' ' :: Text.trim line ≠ Text.trim rule :=
        Ne.symm (hrule.trim_ne_comment _)
      rw [h.trim_shown_false hblank]
      simp only [beq_eq_false_iff_ne.2 hcomment, Bool.false_or]
      rw [Bool.eq_iff_iff]
      simp

end Tidy

/-! ### The lines of a declaration -/

def ruleLines (d : Declaration) : List Line :=
  match rules d with
  | .ok rs => rs.map String.toList
  | .error _ => []

section RuleLine

variable (protocol : Protocol) (hostPorts : String) (guest : Address) (guestPorts note : String)

theorem exists_ruleLine_eq :
    ∃ rest, (ruleLine protocol hostPorts guest guestPorts note).toList = '-' :: rest := by
  rw [toList_ruleLine]
  exact ⟨_, rfl⟩

theorem trimStart_ruleLine : Text.trimStart (ruleLine protocol hostPorts guest guestPorts note).toList
    = (ruleLine protocol hostPorts guest guestPorts note).toList := by
  obtain ⟨rest, hrest⟩ := exists_ruleLine_eq protocol hostPorts guest guestPorts note
  rw [hrest]
  exact Text.trimStart_eq_self (by simp; decide)

/-- A rule begins with a hyphen and ends with a quote. -/
theorem trim_ruleLine : Text.trim (ruleLine protocol hostPorts guest guestPorts note).toList
    = (ruleLine protocol hostPorts guest guestPorts note).toList := by
  have hquote : Text.trimEnd ['"'] = ['"'] := by decide
  rw [Text.trim_eq_trimEnd (trimStart_ruleLine ..), toList_ruleLine, lineOf,
    ← List.cons_append, ← List.append_assoc, Text.trimEnd_append _ (by simp [hquote]), hquote]

end RuleLine

theorem exists_ruleFor_eq (vmName : String) (guest : Address) (f : Forward) :
    ∃ rest, (ruleFor vmName guest f).toList = '-' :: rest := exists_ruleLine_eq ..

theorem tidy_ruleFor {vmName : String} (hname : Role.checkName vmName = .ok ()) (guest : Address)
    (f : Forward) : Tidy (ruleFor vmName guest f).toList := by
  constructor
  · intro h
    rw [toList_ruleFor, lineOf] at h
    simp only [List.mem_append, List.mem_flatMap, List.mem_cons, List.not_mem_nil, or_false] at h
    rcases h with ⟨w, hw, h | h⟩ | h | h | h
    · exact ((plain_lineWords guest f w hw).2 _ h).1.2.2 rfl
    · exact absurd h (by decide)
    · exact absurd h (by decide)
    · exact (quotable_of_mem_note hname h).2.2 rfl
    · exact absurd h (by decide)
  · intro _
    exact trimStart_ruleLine ..
  · intro _
    obtain ⟨rest, hrest⟩ := exists_ruleFor_eq vmName guest f
    rw [Block.isLineCommented, ruleFor, trimStart_ruleLine, ← ruleFor, hrest]
    rfl

/-- A line that can be added: it stands alone, and its ends are not blank. -/
structure IsRule (line : Line) : Prop where
  tidy : Tidy line
  trimmed : Text.trim line = line
  filled : line ≠ []

theorem IsRule.trim_ne_nil {line : Line} (h : IsRule line) : Text.trim line ≠ [] := by
  rw [h.trimmed]
  exact h.filled

theorem IsRule.matchesRule_shown {line : Line} (h : IsRule line) (active : Bool) :
    Block.usual.matchesRule line (shown active line) = true := by
  rw [h.tidy.matchesRule_shown h.tidy]
  exact beq_self_eq_true _

theorem isRule_ruleFor {vmName : String} (hname : Role.checkName vmName = .ok ()) (guest : Address)
    (f : Forward) : IsRule (ruleFor vmName guest f).toList := by
  refine ⟨tidy_ruleFor hname guest f, trim_ruleLine .., ?_⟩
  obtain ⟨rest, hrest⟩ := exists_ruleFor_eq vmName guest f
  simp [hrest]

theorem exists_rules_eq {d : Declaration} (hname : Role.checkName d.vmName = .ok ())
    (hip : d.privateIp.isSome = true) :
    ∃ rs, rules d = .ok rs ∧ ruleLines d = rs.map String.toList ∧
      ∀ rule ∈ rs, IsRule rule.toList := by
  obtain ⟨guest, hguest⟩ := Option.isSome_iff_exists.1 hip
  unfold ruleLines rules
  rw [hguest]
  refine ⟨_, rfl, rfl, ?_⟩
  intro rule hrule
  obtain ⟨f, -, rfl⟩ := List.mem_map.1 hrule
  exact isRule_ruleFor hname guest f

end GuestPorts.Perimeter
