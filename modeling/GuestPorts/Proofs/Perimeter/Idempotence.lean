/-
  GuestPorts/Proofs/Perimeter/Idempotence.lean
  ============================================
  **Switching the managed block to the state that it is in.**

  Switching off puts a marker before the filled lines that have none.  The lines are all blank
  or comments then, wherever the block ends now, so a second time there is nothing left to do
  (`Block.switched_off_settles`); this holds for all markers that show, also when a line that is
  commented comes out as a sentinel.

  Switching on takes one marker from each line, and a line may have more of them.  It is a
  comment still, and loses the next one when the block is switched on again; so switching on
  settles only where no line is commented twice (`Block.switched_on_settles_iff`).
-/
import GuestPorts.Proofs.Perimeter.Markers

namespace GuestPorts.Perimeter

namespace Block

variable {b : Block} {line : Line}

/-! ### Switching off -/

/-- A line, by its number, is strictly inside the block of a text. -/
def HasInside (b : Block) (text : String) (i : Nat) : Prop :=
  ∃ found, b.locate (Text.lines text.toList) = some found ∧ found.before.length ≤ i ∧
    i < found.before.length + found.inside.length

theorem hasInside_iff {text : String} {found : Located}
    (h : b.locate (Text.lines text.toList) = some found) {i : Nat} : b.HasInside text i ↔
      found.before.length ≤ i ∧ i < found.before.length + found.inside.length := by
  simp [HasInside, h]

theorem getElem?_map_between {α : Type} (f : α → α) (front mid back : List α) (i : Nat) :
    (front ++ mid.map f ++ back)[i]? =
      if front.length ≤ i ∧ i < front.length + mid.length then (front ++ mid ++ back)[i]?.map f
      else (front ++ mid ++ back)[i]? := by
  simp only [List.append_assoc, List.getElem?_append, List.length_map, List.getElem?_map]
  by_cases hfront : i < front.length
  · have hout : ¬(front.length ≤ i ∧ i < front.length + mid.length) := by omega
    simp only [if_pos hfront, if_neg hout]
  · by_cases hmid : i - front.length < mid.length
    · have hin : front.length ≤ i ∧ i < front.length + mid.length := by omega
      simp only [if_neg hfront, if_pos hmid, if_pos hin]
    · have hout : ¬(front.length ≤ i ∧ i < front.length + mid.length) := by omega
      simp only [if_neg hfront, if_neg hmid, if_neg hout]

theorem commentLine_cases (b : Block) (line : Line) : b.commentLine line = line ∨
    Text.trim line ≠ [] ∧ b.isLineCommented line = false ∧
      b.commentLine line = b.withMarker line := by
  by_cases h : Text.trim line = [] ∨ b.isLineCommented line = true
  · exact .inl (commentLine_eq_self h)
  · rw [not_or, Bool.not_eq_true] at h
    exact .inr ⟨h.1, h.2, by simp [commentLine, h.1, h.2]⟩

theorem toggled_of_missing {text : String} (h : b.locate (Text.lines text.toList) = none)
    (off : Bool) : b.toggled off text = text := by
  rw [toggled, setCommented_of_missing h, String.ofList_toList]

section Off

variable (hcomment : '\n' ∉ b.commentMarker.toList) (text : String)
include hcomment

theorem lines_toggled_true {text : String} {found : Located}
    (h : b.locate (Text.lines text.toList) = some found) :
    Text.lines (b.toggled true text).toList
      = found.before ++ found.inside.map b.commentLine ++ found.after := by
  obtain ⟨inside, rest, hbetween, hnow⟩ := exists_locate_toggled h hcomment
  rw [(locate_eq_some_iff.1 hnow).1, hbetween]
  simp only [Located.lines, List.append_assoc]

/-- **Switching off comments the lines of the block one by one** and leaves all others. -/
theorem getElem?_toggled_true (i : Nat) :
    b.HasInside text i ∧ (Text.lines (b.toggled true text).toList)[i]?
        = (Text.lines text.toList)[i]?.map b.commentLine ∨
      ¬b.HasInside text i ∧
        (Text.lines (b.toggled true text).toList)[i]? = (Text.lines text.toList)[i]? := by
  cases h : b.locate (Text.lines text.toList) with
  | none => exact .inr ⟨by simp [HasInside, h], by rw [toggled_of_missing h]⟩
  | some found =>
    rw [hasInside_iff h, lines_toggled_true hcomment h, getElem?_map_between,
      (locate_eq_some_iff.1 h).1]
    by_cases hi : found.before.length ≤ i ∧ i < found.before.length + found.inside.length
    · rw [if_pos hi]
      exact .inl ⟨hi, rfl⟩
    · rw [if_neg hi]
      exact .inr ⟨hi, rfl⟩

theorem length_toggled_true :
    (Text.lines (b.toggled true text).toList).length = (Text.lines text.toList).length := by
  cases h : b.locate (Text.lines text.toList) with
  | none => rw [toggled_of_missing h]
  | some found =>
    rw [lines_toggled_true hcomment h, (locate_eq_some_iff.1 h).1]
    simp [Located.lines]

/-- **Switching off does what it says, once and for all**, whatever the sentinels are, and also
    when a line that is commented comes out as one of them.  The lines stay in number; the block
    is off, and the lines that were in it are blank or comments, wherever it ends now; only
    filled lines of the block that were no comments are others, each behind one marker; and a
    second time nothing happens. -/
theorem switched_off_settles (hb : b.MarkerShows) :
    let off := b.toggled true text
    (Text.lines off.toList).length = (Text.lines text.toList).length ∧
      b.isCommented off.toList = true ∧
      (∀ i line, b.HasInside text i → (Text.lines off.toList)[i]? = some line →
        Text.trim line = [] ∨ b.isLineCommented line = true) ∧
      (∀ i line line', (Text.lines text.toList)[i]? = some line →
        (Text.lines off.toList)[i]? = some line' → line' ≠ line →
          b.HasInside text i ∧ Text.trim line ≠ [] ∧ b.isLineCommented line = false ∧
            line' = b.withMarker line) ∧
      b.toggled true off = off := by
  intro off
  refine ⟨length_toggled_true hcomment text, ?isOff, ?comments, ?changes, ?settles⟩
  case isOff =>
    cases h : b.locate (Text.lines text.toList) with
    | none => simp [off, toggled_of_missing h, isCommented, h]
    | some found => exact (serves_of_locate h hb hcomment).isOff
  case comments =>
    intro i line hi hline
    rcases getElem?_toggled_true hcomment text i with ⟨-, hmap⟩ | ⟨hnot, -⟩
    · obtain ⟨before, -, rfl⟩ := Option.map_eq_some_iff.1 (hmap.symm.trans hline)
      exact blank_or_commented hb before
    · exact absurd hi hnot
  case changes =>
    intro i line line' hline hline' hne
    rcases getElem?_toggled_true hcomment text i with ⟨hi, hmap⟩ | ⟨-, hsame⟩
    · rw [hline, Option.map_some, hline', Option.some.injEq] at hmap
      rcases commentLine_cases b line with hstays | ⟨hfilled, hplain, hmarker⟩
      · exact absurd (hmap.trans hstays) hne
      · exact ⟨hi, hfilled, hplain, hmap.trans hmarker⟩
    · rw [hline, hline', Option.some.injEq] at hsame
      exact absurd hsame hne
  case settles =>
    cases h : b.locate (Text.lines text.toList) with
    | none => simp only [off, toggled_of_missing h]
    | some found => exact (serves_of_locate h hb hcomment).settles

end Off

/-- Both lines of the block come out as its closing sentinel, or behind it. -/
theorem switched_off_settles_closed :
    let b : Block := ⟨"[begin", "// end", "//"⟩
    let text := "[begin\nend\n-A x\n// end\n"
    b.MarkerShows ∧ '\n' ∉ b.commentMarker.toList ∧
      b.toggled true text = "[begin\n// end\n// -A x\n// end\n" ∧
      b.isCommented (b.toggled true text).toList = true ∧
      b.toggled true (b.toggled true text) = b.toggled true text := by
  intro b text
  have hb : b.MarkerShows := ⟨'/', ['/'], by decide +kernel, by decide⟩
  have hcomment : '\n' ∉ b.commentMarker.toList := by decide +kernel
  obtain ⟨-, hoff, -, -, hsettles⟩ := switched_off_settles hcomment text hb
  exact ⟨hb, hcomment, by decide +kernel, hoff, hsettles⟩

/-! ### Switching on -/

/-- Whether two comment markers stand at the front of a line, blanks around them allowed. -/
def isCommentedTwice (b : Block) (line : Line) : Bool :=
  b.isLineCommented line &&
    b.isLineCommented ((Text.trimStart line).drop b.commentMarker.toList.length)

theorem trimStart_dropSpace (line : Line) :
    Text.trimStart (dropSpace line) = Text.trimStart line := by
  unfold dropSpace
  split
  · rfl
  · rfl

/-- A line is a comment still when it has lost one of two markers. -/
theorem isLineCommented_uncommentLine (b : Block) (line : Line) :
    b.isLineCommented (b.uncommentLine line) = b.isCommentedTwice line := by
  unfold isCommentedTwice
  cases h : b.isLineCommented line with
  | false => rw [uncommentLine_of_not_commented h, h, Bool.false_and]
  | true =>
    obtain ⟨rest, hrest⟩ := isLineCommented_iff.1 h
    rw [uncommentLine_of_trimStart hrest, hrest, List.drop_left, Bool.true_and, isLineCommented,
      trimStart_dropSpace, ← isLineCommented]

/-- The lines of a block up to the first that closes it when it is switched on. -/
def keptInside (b : Block) (inside : List Line) : List Line :=
  inside.takeWhile fun line => !isSentinel b.endMarker (b.uncommentLine line)

/-- **Switching on a second time does nothing just when no line is commented twice**, of those
    that the block still holds when it is switched on. -/
theorem switched_on_settles_iff (text : String) :
    let on := ({} : Block).toggled false text
    ({} : Block).toggled false on = on ↔
      ∀ found, ({} : Block).locate (Text.lines text.toList) = some found →
        ∀ line ∈ ({} : Block).keptInside found.inside,
          ({} : Block).isCommentedTwice line = false := by
  intro on
  cases h : Block.usual.locate (Text.lines text.toList) with
  | none =>
    simp only [on, toggled_of_missing h, true_iff]
    exact nofun
  | some found =>
    have hnow := locate_setCommented_false h
    have hchars : Block.usual.toggled false on = on ↔
        Block.usual.setCommented false (Block.usual.setCommented false text.toList)
          = Block.usual.setCommented false text.toList := by
      simp [on, toggled, String.ofList_inj]
    -- the second call sees the lines that the first one leaves in the block
    rw [hchars, setCommented_false_eq_self_iff hnow, List.takeWhile_map]
    simp only [List.forall_mem_map, isLineCommented_uncommentLine, Option.some.injEq,
      forall_eq']
    rfl

/-- Behind a line that closes the block now, two markers are not looked at. -/
example :
    let on := ({} : Block).toggled false "#KVM_GO_START\n# #KVM_GO_END\n# # *nat\n#KVM_GO_END"
    ({} : Block).toggled false on = on := by
  decide +kernel

/-- **Two markers need two calls**: one is left behind the first, and the rule is in force only
    behind the second. -/
theorem switched_on_twice_differs :
    let on := ({} : Block).toggled false "#KVM_GO_START\n# # *nat\n#KVM_GO_END"
    on = "#KVM_GO_START\n# *nat\n#KVM_GO_END" ∧
      ({} : Block).toggled false on = "#KVM_GO_START\n*nat\n#KVM_GO_END" ∧
      ({} : Block).toggled false on ≠ on := by
  decide +kernel

end Block

end GuestPorts.Perimeter
