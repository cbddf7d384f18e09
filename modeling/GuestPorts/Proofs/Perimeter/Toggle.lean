/-
  GuestPorts/Proofs/Perimeter/Toggle.lean
  =======================================
  **Switching the managed block off and on again.**

  Switching off puts a marker before the lines that have none, switching on takes one from
  every line that has one.  So a line that was no comment comes back as it was, whatever
  blanks stand in it (`Block.uncommentLine_commentLine`), and a line that was a comment
  before does not: it loses its own marker.  No commented line closes the block, so both
  switches find the same lines.
-/
import GuestPorts.Proofs.Perimeter.Line

namespace GuestPorts.Perimeter

namespace Block

/-! ### One line -/

/-- The comment marker shows at the front of a line: it is not empty and begins with no blank. -/
def MarkerShows (b : Block) : Prop :=
  ∃ c rest, b.commentMarker.toList = c :: rest ∧ Text.isBlank c = false

theorem markerShows_usual : Block.usual.MarkerShows := ⟨'#', [], by decide, by decide⟩

variable {b : Block} {line : Line}

theorem isLineCommented_iff :
    b.isLineCommented line = true ↔
      ∃ rest, Text.trimStart line = b.commentMarker.toList ++ rest := by
  simp only [isLineCommented, List.isPrefixOf_iff_prefix]
  constructor
  · rintro ⟨rest, hrest⟩
    exact ⟨rest, hrest.symm⟩
  · rintro ⟨rest, hrest⟩
    exact ⟨rest, hrest.symm⟩

theorem uncommentLine_of_trimStart {rest : List Char}
    (h : Text.trimStart line = b.commentMarker.toList ++ rest) :
    b.uncommentLine line = dropSpace rest := by
  simp [uncommentLine, Text.afterFront_eq_some_iff.2 h]

theorem uncommentLine_usual (line : Line) :
    Block.usual.uncommentLine line
      = if Block.usual.isLineCommented line then dropSpace (Text.trimStart line).tail
        else line := by
  split
  · next hcommented =>
    obtain ⟨rest, hrest⟩ := isLineCommented_iff.1 hcommented
    have hmarker : Block.usual.commentMarker.toList = ['#'] := by decide
    rw [uncommentLine_of_trimStart hrest, hrest, hmarker]
    rfl
  · next hplain =>
    rw [Bool.not_eq_true] at hplain
    exact uncommentLine_of_not_commented hplain

theorem trimStart_withMarker (hb : b.MarkerShows) (line : Line) :
    Text.trimStart (b.withMarker line) = b.commentMarker.toList ++ ' ' :: line := by
  obtain ⟨c, rest, hmarker, hc⟩ := hb
  apply Text.trimStart_eq_self
  simp [withMarker, hmarker, hc]

theorem uncommentLine_withMarker (hb : b.MarkerShows) (line : Line) :
    b.uncommentLine (b.withMarker line) = line :=
  uncommentLine_of_trimStart (trimStart_withMarker hb line)

/-- A line that is commented out and in again has lost the marker that it had before, if any. -/
theorem uncommentLine_commentLine (hb : b.MarkerShows) (line : Line) :
    b.uncommentLine (b.commentLine line) = b.uncommentLine line := by
  by_cases hcommented : b.isLineCommented line = true
  · simp [commentLine, hcommented]
  · rw [Bool.not_eq_true] at hcommented
    by_cases hblank : Text.trim line = []
    · simp [commentLine, hblank]
    · have hcomment : b.commentLine line = b.withMarker line := by
        simp [commentLine, hblank, hcommented]
      rw [hcomment, uncommentLine_withMarker hb, uncommentLine_of_not_commented hcommented]

theorem length_dropSpace_le (line : Line) : (dropSpace line).length ≤ line.length := by
  unfold dropSpace
  split <;> simp

theorem uncommentLine_eq_self_iff (hb : b.MarkerShows) :
    b.uncommentLine line = line ↔ b.isLineCommented line = false := by
  constructor
  · intro hline
    by_contra hcommented
    rw [Bool.not_eq_false] at hcommented
    -- without its marker the line would be shorter
    obtain ⟨rest, hrest⟩ := isLineCommented_iff.1 hcommented
    obtain ⟨c, marker, hmarker, -⟩ := hb
    obtain ⟨front, -, hfront⟩ := Text.exists_blank_append_trimStart line
    have hlength := congrArg List.length hfront
    rw [hrest, hmarker] at hlength
    rw [uncommentLine_of_trimStart hrest] at hline
    have hshort := length_dropSpace_le rest
    rw [hline] at hshort
    simp at hlength
    omega
  · exact uncommentLine_of_not_commented

theorem notMem_dropSpace {c : Char} (h : c ∉ line) : c ∉ dropSpace line := by
  unfold dropSpace
  split
  · exact fun hmem => h (List.mem_cons_of_mem _ hmem)
  · exact h

theorem notMem_uncommentLine {c : Char} (h : c ∉ line) : c ∉ b.uncommentLine line := by
  by_cases hcommented : b.isLineCommented line = true
  · obtain ⟨rest, hrest⟩ := isLineCommented_iff.1 hcommented
    obtain ⟨front, -, hfront⟩ := Text.exists_blank_append_trimStart line
    rw [uncommentLine_of_trimStart hrest]
    apply notMem_dropSpace
    intro hmem
    rw [hfront, hrest] at h
    simp [hmem] at h
  · rw [Bool.not_eq_true] at hcommented
    rw [uncommentLine_of_not_commented hcommented]
    exact h

theorem notMem_commentLine {c : Char} (hmarker : c ∉ b.commentMarker.toList) (hblank : c ≠ ' ')
    (h : c ∉ line) : c ∉ b.commentLine line := by
  unfold commentLine
  split
  · exact h
  · simp [withMarker, hmarker, hblank, h]

/-- No line becomes a closing sentinel when it is commented: a blank follows the marker. -/
theorem isSentinel_commentLine (h : isSentinel Block.usual.endMarker line = false) :
    isSentinel Block.usual.endMarker (Block.usual.commentLine line) = false := by
  unfold commentLine
  split
  · exact h
  · next hplain =>
    have hfilled : Text.trim line ≠ [] := by
      intro hblank
      simp [hblank] at hplain
    have hmarker : Block.usual.endMarker.toList = '#' :: 'K' :: "VM_GO_END".toList := by decide
    have htrim : Text.trim (Block.usual.withMarker line) = '#' :: ' ' :: Text.trimEnd line := by
      have hend : Text.trimEnd line ≠ [] := by
        intro hnil
        exact hfilled (Text.trim_eq_nil_iff.2 (List.rdropWhile_eq_nil_iff.1 hnil))
      change Text.trim ('#' :: ' ' :: line) = _
      rw [Text.trim_eq_trimEnd (trimStart_comment _)]
      exact Text.trimEnd_append ['#', ' '] hend
    rw [isSentinel, htrim, hmarker]
    simp

/-! ### The whole text -/

theorem setCommented_true_of_locate {text : List Char} {found : Located}
    (h : b.locate (Text.lines text) = some found) : b.setCommented true text
      = Text.unlines { found with inside := found.inside.map b.commentLine }.lines :=
  mapInside_of_locate h _

theorem setCommented_false_of_locate {text : List Char} {found : Located}
    (h : b.locate (Text.lines text) = some found) : b.setCommented false text
      = Text.unlines { found with inside := found.inside.map b.uncommentLine }.lines :=
  mapInside_of_locate h _

theorem setCommented_of_missing {text : List Char} (h : b.locate (Text.lines text) = none)
    (off : Bool) : b.setCommented off text = text := by
  simp only [setCommented, mapInside, h]

theorem notMem_of_mem_inside {text : List Char} {found : Located}
    (h : b.locate (Text.lines text) = some found) : ∀ line ∈ found.inside, '\n' ∉ line := by
  intro line hline
  apply notMem_of_locate h
  simp [Located.lines, hline]

/-- Lines of the block that are put in the place of others leave the other lines one by one. -/
theorem notMem_of_edit {text : List Char} {found : Located}
    (h : b.locate (Text.lines text) = some found) {inside : List Line}
    (hinside : ∀ line ∈ inside, '\n' ∉ line) :
    ∀ line ∈ ({ found with inside := inside } : Located).lines, '\n' ∉ line := by
  intro line hline
  have hfound := notMem_of_locate h line
  simp only [Located.lines, List.mem_append] at hline hfound
  rcases hline with (hbefore | hmem) | hafter
  · exact hfound (.inl (.inl hbefore))
  · exact hinside line hmem
  · exact hfound (.inr hafter)

theorem notMem_uncommented {text : List Char} {found : Located}
    (h : Block.usual.locate (Text.lines text) = some found) :
    ∀ line ∈ ({ found with inside := found.inside.map Block.usual.uncommentLine } : Located).lines,
      '\n' ∉ line := by
  refine notMem_of_edit h fun line hline => ?_
  obtain ⟨before, hbefore, rfl⟩ := List.mem_map.1 hline
  exact notMem_uncommentLine (notMem_of_mem_inside h before hbefore)

/-- The block is found again when it is switched off, with its lines commented. -/
theorem locate_setCommented_true {text : List Char} {found : Located}
    (h : Block.usual.locate (Text.lines text) = some found) :
    Block.usual.locate (Text.lines (Block.usual.setCommented true text))
      = some { found with inside := found.inside.map Block.usual.commentLine } := by
  have hdelimits := (locate_eq_some_iff.1 h).2
  have hinside : ∀ line ∈ found.inside.map Block.usual.commentLine,
      isSentinel Block.usual.endMarker line = false := by
    intro line hline
    obtain ⟨before, hbefore, rfl⟩ := List.mem_map.1 hline
    exact isSentinel_commentLine (hdelimits.inside before hbefore)
  rw [setCommented_true_of_locate h]
  apply (hdelimits.edit hinside).locate_unlines
  apply notMem_of_edit h
  intro line hline
  obtain ⟨before, hbefore, rfl⟩ := List.mem_map.1 hline
  exact notMem_commentLine (by decide) (by decide) (notMem_of_mem_inside h before hbefore)

/-- The block is found again when it is switched on, up to the first line that closes it now. -/
theorem locate_setCommented_false {text : List Char} {found : Located}
    (h : Block.usual.locate (Text.lines text) = some found) :
    let opened := found.inside.map Block.usual.uncommentLine
    Block.usual.locate (Text.lines (Block.usual.setCommented false text))
      = some ⟨found.before, opened.takeWhile fun line => !isSentinel Block.usual.endMarker line,
          (opened.dropWhile fun line => !isSentinel Block.usual.endMarker line) ++ found.after⟩ := by
  have hdelimits := (locate_eq_some_iff.1 h).2
  rw [setCommented_false_of_locate h,
    Text.lines_unlines (by simp [Located.lines, hdelimits.after_ne_nil]) (notMem_uncommented h)]
  exact hdelimits.locate_between _

/-- **Switching off and on is switching on.** -/
theorem setCommented_false_true (text : List Char) :
    Block.usual.setCommented false (Block.usual.setCommented true text)
      = Block.usual.setCommented false text := by
  cases h : Block.usual.locate (Text.lines text) with
  | none => rw [setCommented_of_missing h]
  | some found =>
    have hback : Block.usual.uncommentLine ∘ Block.usual.commentLine = Block.usual.uncommentLine :=
      funext (uncommentLine_commentLine markerShows_usual)
    rw [setCommented_false_of_locate (locate_setCommented_true h), setCommented_false_of_locate h]
    simp [hback]

/-- Switching on leaves a text alone when no line of its block is a comment, and only then. -/
theorem setCommented_false_eq_self_iff {text : List Char} {found : Located}
    (h : Block.usual.locate (Text.lines text) = some found) :
    Block.usual.setCommented false text = text ↔
      ∀ line ∈ found.inside, Block.usual.isLineCommented line = false := by
  obtain ⟨hlines, hdelimits⟩ := locate_eq_some_iff.1 h
  have hsame : Block.usual.setCommented false text = text ↔
      found.inside.map Block.usual.uncommentLine = found.inside.map id := by
    rw [setCommented_false_of_locate h]
    constructor
    · intro heq
      -- equal texts have equal lines, and so the same ones between the sentinels
      have hcut := congrArg Text.lines heq
      rw [hlines, Text.lines_unlines (by simp [Located.lines, hdelimits.after_ne_nil])
        (notMem_uncommented h)] at hcut
      simpa [Located.lines] using hcut
    · intro heq
      simpa [heq] using unlines_of_locate h
  rw [hsame, List.map_inj_left]
  simp [uncommentLine_eq_self_iff markerShows_usual]

/-- **What switching a block off and on again leaves of it**: every line that is no comment as it
    was, and every comment without its marker and the blank behind that.  So nothing is lost when the block holds no
    comments, and only then. -/
theorem switched_off_and_on {text : List Char} (hactive : ({} : Block).isCommented text = false) :
    ∃ found, ({} : Block).locate (Text.lines text) = some found ∧
      ({} : Block).setCommented false (({} : Block).setCommented true text)
        = Text.unlines { found with inside := found.inside.map fun line =>
            if ({} : Block).isLineCommented line then dropSpace (Text.trimStart line).tail
            else line }.lines ∧
      (({} : Block).setCommented false (({} : Block).setCommented true text) = text ↔
        ∀ line ∈ found.inside, ({} : Block).isLineCommented line = false) := by
  cases h : Block.usual.locate (Text.lines text) with
  | none => simp [isCommented, h] at hactive
  | some found =>
    refine ⟨found, rfl, ?_, ?_⟩
    · rw [setCommented_false_true, setCommented_false_of_locate h, funext uncommentLine_usual]
    · rw [setCommented_false_true]
      exact setCommented_false_eq_self_iff h

/-- Blank lines, indented lines and line ends of another kind come back as they were. -/
theorem switched_off_and_on_indented :
    let text := "#KVM_GO_START\n*nat\n\n \t\n  COMMIT\r\n#KVM_GO_END\n".toList
    ({} : Block).isCommented text = false ∧
      ({} : Block).setCommented false (({} : Block).setCommented true text) = text := by
  intro text
  have hactive : ({} : Block).isCommented text = false := rfl
  obtain ⟨found, hfound, -, hiff⟩ := switched_off_and_on hactive
  have hinside : ({} : Block).locate (Text.lines text) = some
      ⟨["#KVM_GO_START".toList], ["*nat".toList, [], " \t".toList, "  COMMIT\r".toList],
        ["#KVM_GO_END".toList, []]⟩ := rfl
  rw [hinside] at hfound
  cases hfound
  exact ⟨hactive, hiff.2 (by decide)⟩

/-- **A comment does not come back**: the line that was one is a rule afterwards. -/
theorem switched_off_and_on_loses_comment :
    let text := "#KVM_GO_START\n*nat\n# by hand\n#KVM_GO_END".toList
    ({} : Block).isCommented text = false ∧
      ({} : Block).setCommented false (({} : Block).setCommented true text) ≠ text := by
  decide +kernel

end Block

end GuestPorts.Perimeter
