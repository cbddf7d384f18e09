/-
  GuestPorts/Proofs/Perimeter/Markers.lean
  ========================================
  **Which markers serve**, among those that the check of the settings lets through.

  The check asks of a sentinel that something is left when it is trimmed, but a line is trimmed
  before it is compared with the sentinel as it was given.  So a sentinel with a blank at one of
  its ends is on no line (`Block.trimmed_of_locate`), and every rule is refused for want of a
  block.  Of the comment marker the check asks that it is not empty, but a marker is looked for
  where the blanks at the front of a line end: one that begins with a blank is never seen there
  (`Block.isLineCommented_of_blank`), and switching off puts one more in front of each line
  every time.  Without these blanks the block does what is asked of it in every text, and with
  any of them there is a text in which it does not (`Settings.markers_serve_iff`).
-/
import GuestPorts.Proofs.Perimeter.Toggle
import GuestPorts.Perimeter.Service
import GuestPorts.Settings.Basic

namespace GuestPorts.Perimeter

/-- A list is cut at its first element with a property, however far in front of a given one. -/
theorem exists_cutBefore_append {α : Type} {p : α → Bool} {a : α} (ha : p a = true)
    (front back : List α) :
    ∃ before x behind, cutBefore p (front ++ a :: back) = some (before, x :: behind) ∧
      back <:+ behind := by
  induction front with
  | nil => exact ⟨[], a, back, by simp [cutBefore, ha], List.suffix_refl back⟩
  | cons y rest ih =>
    by_cases hy : p y = true
    · refine ⟨[], y, rest ++ a :: back, by simp [cutBefore, hy], ?_⟩
      exact (List.suffix_cons a back).trans (List.suffix_append rest _)
    · obtain ⟨before, x, behind, hcut, hsuffix⟩ := ih
      exact ⟨y :: before, x, behind, by simp [cutBefore, hy, hcut], hsuffix⟩

namespace Block

variable {b : Block} {line : Line} {lines : List Line}

/-! ### Sentinels -/

/-- The opening sentinel is a line, and the closing one a later line. -/
def Marked (b : Block) (lines : List Line) : Prop :=
  ∃ front inside back,
    lines = front ++ b.startMarker.toList :: (inside ++ b.endMarker.toList :: back)

/-- No blanks are at the ends of the sentinels. -/
structure Trimmed (b : Block) : Prop where
  start : Text.trimmed b.startMarker = b.startMarker
  stop : Text.trimmed b.endMarker = b.endMarker

theorem isSentinel_self {marker : String} (h : Text.trimmed marker = marker) :
    isSentinel marker marker.toList = true := by
  rw [isSentinel, ← Text.toList_trimmed, h]
  exact beq_self_eq_true _

theorem trimmed_of_isSentinel {marker : String} (h : isSentinel marker line = true) :
    Text.trimmed marker = marker := by
  have htrim : Text.trim line = marker.toList := by simpa [isSentinel] using h
  rw [← String.toList_inj, Text.toList_trimmed, ← htrim, Text.trim_trim]

/-- **A block is found with trimmed sentinels only.** -/
theorem trimmed_of_locate {found : Located} (h : b.locate lines = some found) : b.Trimmed := by
  have hdelimits := (locate_eq_some_iff.1 h).2
  obtain ⟨front, opening, -, -, hopening⟩ := hdelimits.before
  obtain ⟨closing, rest, -, hclosing⟩ := hdelimits.after
  exact ⟨trimmed_of_isSentinel hopening, trimmed_of_isSentinel hclosing⟩

/-- **Trimmed sentinels are found** wherever they stand in this order. -/
theorem Marked.exists_locate (h : b.Marked lines) (htrimmed : b.Trimmed) :
    ∃ found, b.locate lines = some found := by
  obtain ⟨front, inside, back, rfl⟩ := h
  obtain ⟨before, opening, behind, hstart, hsuffix⟩ := exists_cutBefore_append
    (isSentinel_self htrimmed.start) front (inside ++ b.endMarker.toList :: back)
  obtain ⟨between, hbehind⟩ := hsuffix
  obtain ⟨inner, closing, rest, hend, -⟩ := exists_cutBefore_append
    (isSentinel_self htrimmed.stop) (between ++ inside) back
  rw [List.append_assoc, hbehind] at hend
  refine ⟨⟨before ++ [opening], inner, closing :: rest⟩, ?_⟩
  simp only [locate, hstart, hend]

/-! ### The comment marker -/

theorem commentLine_eq_self (h : Text.trim line = [] ∨ b.isLineCommented line = true) :
    b.commentLine line = line := by
  unfold commentLine
  rw [if_pos]
  simpa using h

theorem isLineCommented_withMarker (hb : b.MarkerShows) (line : Line) :
    b.isLineCommented (b.withMarker line) = true :=
  isLineCommented_iff.2 ⟨_, trimStart_withMarker hb line⟩

theorem blank_or_commented (hb : b.MarkerShows) (line : Line) :
    Text.trim (b.commentLine line) = [] ∨ b.isLineCommented (b.commentLine line) = true := by
  unfold commentLine
  split
  · next hstays => simpa using hstays
  · exact .inr (isLineCommented_withMarker hb line)

/-- A line is commented once. -/
theorem commentLine_commentLine (hb : b.MarkerShows) (line : Line) :
    b.commentLine (b.commentLine line) = b.commentLine line :=
  commentLine_eq_self (blank_or_commented hb line)

/-- **A marker that begins with a blank is never seen.** -/
theorem isLineCommented_of_blank {c : Char} {rest : List Char}
    (hmarker : b.commentMarker.toList = c :: rest) (hc : Text.isBlank c = true) (line : Line) :
    b.isLineCommented line = false := by
  rw [← Bool.not_eq_true, isLineCommented_iff]
  rintro ⟨back, hback⟩
  have hhead := Text.isBlank_head?_trimStart line c (by rw [hback, hmarker]; rfl)
  rw [hc] at hhead
  cases hhead

/-! ### A text -/

/-- What is asked of a block in a text: every rule can be added, and switching off is seen
    afterwards and leaves nothing to do. -/
structure Serves (b : Block) (text : String) : Prop where
  adds : ∀ rule, ∃ after, b.withRule text rule = .ok after
  isOff : b.isCommented (b.toggled true text).toList = true
  settles : b.toggled true (b.toggled true text) = b.toggled true text

/-- The markers hold no line feed, so that each of them is a part of one line. -/
structure OneLine (b : Block) : Prop where
  start : '\n' ∉ b.startMarker.toList
  stop : '\n' ∉ b.endMarker.toList
  comment : '\n' ∉ b.commentMarker.toList

section Located

variable {text : String} {found : Located}
  (h : b.locate (Text.lines text.toList) = some found)
include h

theorem exists_withRule (rule : String) : ∃ after, b.withRule text rule = .ok after := by
  unfold withRule addRule
  rw [h]
  by_cases hthere : found.inside.any (b.matchesRule rule.toList) = true
  · simp [hthere]
  · simp [hthere]

/-- The block is found in a text that was switched off, though a comment may close it now. -/
theorem exists_locate_toggled (hcomment : '\n' ∉ b.commentMarker.toList) :
    ∃ inside rest, found.inside.map b.commentLine = inside ++ rest ∧
      b.locate (Text.lines (b.toggled true text).toList)
        = some ⟨found.before, inside, rest ++ found.after⟩ := by
  have hdelimits := (locate_eq_some_iff.1 h).2
  obtain ⟨inside, rest, hbetween, hnow⟩ :=
    hdelimits.exists_locate (found.inside.map b.commentLine)
  refine ⟨inside, rest, hbetween, ?_⟩
  rw [toggled, String.toList_ofList, setCommented_true_of_locate h, Text.lines_unlines]
  · exact hnow
  · simp [Located.lines, hdelimits.after_ne_nil]
  · apply notMem_of_edit h
    intro line hline
    obtain ⟨before, hbefore, rfl⟩ := List.mem_map.1 hline
    exact notMem_commentLine hcomment (by decide) (notMem_of_mem_inside h before hbefore)

/-- **A marker that shows serves** wherever there is a block. -/
theorem serves_of_locate (hb : b.MarkerShows) (hcomment : '\n' ∉ b.commentMarker.toList) :
    b.Serves text := by
  obtain ⟨inside, rest, hbetween, hnow⟩ := exists_locate_toggled h hcomment
  have hinside : ∀ line ∈ inside, ∃ before, b.commentLine before = line := by
    intro line hline
    have hmem : line ∈ found.inside.map b.commentLine :=
      hbetween ▸ List.mem_append_left rest hline
    obtain ⟨before, -, hbefore⟩ := List.mem_map.1 hmem
    exact ⟨before, hbefore⟩
  constructor
  · exact exists_withRule h
  · simp only [isCommented, hnow, isInactive, Located.filled]
    rw [List.all_eq_true]
    intro line hline
    obtain ⟨hmem, hfilled⟩ := List.mem_filter.1 hline
    obtain ⟨before, rfl⟩ := hinside line hmem
    rcases blank_or_commented hb before with hblank | hcommented
    · simp [hblank] at hfilled
    · exact hcommented
  · have hsame : inside.map b.commentLine = inside := by
      rw [← List.map_id inside, List.map_map]
      apply List.map_congr_left
      intro line hline
      obtain ⟨before, rfl⟩ := hinside line hline
      exact commentLine_commentLine hb before
    rw [← String.toList_inj]
    conv_lhs => rw [toggled, String.toList_ofList]
    rw [setCommented_true_of_locate hnow]
    simp only [hsame]
    exact unlines_of_locate hnow

end Located

theorem withRule_of_untrimmed (h : ¬b.Trimmed) (text rule : String) :
    b.withRule text rule = .error (.blockNotFound b.startMarker b.endMarker) := by
  unfold withRule addRule
  cases hlocate : b.locate (Text.lines text.toList) with
  | none => rfl
  | some found => exact absurd (trimmed_of_locate hlocate) h

/-! ### A text with one line in its block -/

/-- The sentinels with a line between them. -/
def around (b : Block) (line : Line) : String :=
  String.ofList (Text.unlines [b.startMarker.toList, line, b.endMarker.toList])

section Around

variable (hb : b.OneLine) (hline : '\n' ∉ line)
include hb hline

theorem lines_around : Text.lines (b.around line).toList
    = [b.startMarker.toList, line, b.endMarker.toList] := by
  rw [around, String.toList_ofList, Text.lines_unlines (List.cons_ne_nil _ _)]
  simp [hb.start, hb.stop, hline]

theorem marked_around : b.Marked (Text.lines (b.around line).toList) :=
  ⟨[], [line], [], lines_around hb hline⟩

theorem locate_around (htrimmed : b.Trimmed) (hinside : isSentinel b.endMarker line = false) :
    b.locate (Text.lines (b.around line).toList)
      = some ⟨[b.startMarker.toList], [line], [b.endMarker.toList]⟩ := by
  rw [lines_around hb hline, locate_eq_some_iff]
  refine ⟨rfl, ⟨[], _, rfl, nofun, isSentinel_self htrimmed.start⟩, ?_,
    ⟨_, [], rfl, isSentinel_self htrimmed.stop⟩⟩
  intro x hx
  rw [List.mem_singleton.1 hx]
  exact hinside

end Around

/-- What is longer than a sentinel in some letter is no sentinel. -/
theorem isSentinel_of_count {marker : String} {c : Char} (hc : Text.isBlank c = false)
    (h : marker.toList.count c < line.count c) : isSentinel marker line = false := by
  rw [isSentinel, beq_eq_false_iff_ne]
  intro htrim
  rw [← htrim, Text.count_trim hc] at h
  exact Nat.lt_irrefl _ h

theorem trim_ne_nil_of_count {c : Char} (hc : Text.isBlank c = false) (h : 0 < line.count c) :
    Text.trim line ≠ [] := by
  intro hblank
  rw [← Text.count_trim hc, hblank] at h
  exact Nat.lt_irrefl _ h

/-- With a marker that begins with a blank, a filled block stays on when it is switched off. -/
theorem exists_not_serves (hb : b.OneLine) (htrimmed : b.Trimmed) {c : Char} {rest : List Char}
    (hmarker : b.commentMarker.toList = c :: rest) (hc : Text.isBlank c = true) :
    ∃ line, '\n' ∉ line ∧ ¬b.Serves (b.around line) := by
  have hx : Text.isBlank 'x' = false := by decide
  -- a line that does not close the block, neither as it is nor behind the marker
  let line : Line := List.replicate (b.endMarker.toList.count 'x' + 1) 'x'
  have hcount : b.endMarker.toList.count 'x' < line.count 'x' := by simp [line]
  have hcountComment : b.endMarker.toList.count 'x' < (b.withMarker line).count 'x' := by
    refine Nat.lt_of_lt_of_le hcount (List.Sublist.count_le 'x' ?_)
    exact ((List.sublist_cons_self ' ' line).trans (List.sublist_append_right _ _))
  have hline : '\n' ∉ line := fun h => absurd (List.eq_of_mem_replicate h) (by decide)
  have hcomment : '\n' ∉ b.withMarker line := by simp [withMarker, hb.comment, hline]
  have hfilled := trim_ne_nil_of_count hx (Nat.zero_lt_of_lt hcount)
  have hfilledComment := trim_ne_nil_of_count hx (Nat.zero_lt_of_lt hcountComment)
  have hplain := isLineCommented_of_blank hmarker hc
  have hlocate := locate_around hb hline htrimmed (isSentinel_of_count hx hcount)
  have hcommented : b.commentLine line = b.withMarker line := by
    simp [commentLine, hfilled, hplain line]
  have htoggled : b.toggled true (b.around line) = b.around (b.withMarker line) := by
    rw [toggled, setCommented_true_of_locate hlocate, around, List.map_singleton, hcommented]
    rfl
  refine ⟨line, hline, fun hserves => ?_⟩
  have hoff := hserves.isOff
  have hnow := locate_around hb hcomment htrimmed (isSentinel_of_count hx hcountComment)
  rw [htoggled] at hoff
  simp [isCommented, hnow, isInactive, Located.filled, hfilledComment, hplain] at hoff

end Block

end GuestPorts.Perimeter

namespace GuestPorts.Settings

open Perimeter

theorem commentMarker_ne_nil {s : Settings} (hs : s.validate = .ok ()) :
    s.perimeter.block.commentMarker.toList ≠ [] := by
  intro hnil
  have hempty : s.perimeter.block.commentMarker = "" := String.toList_inj.1 hnil
  unfold validate at hs
  simp only [hempty] at hs
  split_ifs at hs
  next hfilled => exact hfilled rfl

/-- **Valid settings serve when no marker has a blank where one is trimmed away.**  Where the
    sentinels have none at their ends and the comment marker begins with none, every rule finds
    its place in every text with the sentinels in it, and a block that is switched off is off
    and stays as it is.  Otherwise there is a text in which this fails: behind sentinels that
    are not trimmed, every rule is refused in every text. -/
theorem markers_serve_iff {s : Settings} (hs : s.validate = .ok ())
    (hline : s.perimeter.block.OneLine) :
    let b := s.perimeter.block
    ((∀ text, b.Marked (Text.lines text.toList) → b.Serves text) ↔
      b.Trimmed ∧ ∀ c ∈ b.commentMarker.toList.head?, Text.isBlank c = false) ∧
      (¬b.Trimmed → ∀ text rule,
        b.withRule text rule = .error (.blockNotFound b.startMarker b.endMarker)) := by
  intro b
  obtain ⟨c, rest, hmarker⟩ := List.exists_cons_of_ne_nil (commentMarker_ne_nil hs)
  refine ⟨⟨?needed, ?enough⟩, Block.withRule_of_untrimmed⟩
  case needed =>
    intro hserves
    have htrimmed : b.Trimmed := by
      by_contra huntrimmed
      have hmarked := Block.marked_around hline (List.not_mem_nil (a := '\n'))
      obtain ⟨after, hafter⟩ := (hserves _ hmarked).adds ""
      rw [Block.withRule_of_untrimmed huntrimmed] at hafter
      cases hafter
    refine ⟨htrimmed, fun x hx => ?_⟩
    rw [hmarker] at hx
    obtain rfl : c = x := Option.some.inj hx
    by_contra hblank
    obtain ⟨line, hfeed, hnot⟩ :=
      Block.exists_not_serves hline htrimmed hmarker (Bool.not_eq_false _ ▸ hblank)
    exact hnot (hserves _ (Block.marked_around hline hfeed))
  case enough =>
    rintro ⟨htrimmed, hshows⟩ text hmarked
    obtain ⟨found, hfound⟩ := hmarked.exists_locate htrimmed
    have hb : b.MarkerShows := ⟨c, rest, hmarker, hshows c (by rw [hmarker]; rfl)⟩
    exact Block.serves_of_locate hfound hb hline.comment

/-- A line of the block closes it when it is commented. -/
theorem markers_serve_closing_comment :
    let s : Settings := { perimeter.block := ⟨"[begin", "# end", "#"⟩ }
    let text := "[begin\nend\n-A x\n# end\n"
    s.validate = .ok () ∧ s.perimeter.block.OneLine ∧
      s.perimeter.block.Marked (Text.lines text.toList) ∧ s.perimeter.block.Serves text := by
  intro s text
  have hs : s.validate = .ok () := by decide +kernel
  have hline : s.perimeter.block.OneLine :=
    ⟨by decide +kernel, by decide +kernel, by decide +kernel⟩
  have hmarked : s.perimeter.block.Marked (Text.lines text.toList) :=
    ⟨[], ["end".toList, "-A x".toList], [[]], by decide +kernel⟩
  have htrimmed : s.perimeter.block.Trimmed := ⟨by decide +kernel, by decide +kernel⟩
  have hshows : ∀ c ∈ s.perimeter.block.commentMarker.toList.head?, Text.isBlank c = false := by
    have hhead : s.perimeter.block.commentMarker.toList.head? = some '#' := by decide +kernel
    rw [hhead]
    simp [Text.isBlank]
  obtain ⟨hserves, -⟩ := markers_serve_iff hs hline
  exact ⟨hs, hline, hmarked, hserves.2 ⟨htrimmed, hshows⟩ text hmarked⟩

/-- **Valid settings that do not serve**: behind an indented sentinel a rule is refused, and with
    a blank for a comment marker the block stays on and its lines move to the right each time. -/
theorem blank_markers_fail :
    let indented : Settings := { perimeter.block := { startMarker := " #KVM_GO_START" } }
    let blank : Settings := { perimeter.block := { commentMarker := " " } }
    let text := " #KVM_GO_START\nCOMMIT\n#KVM_GO_END"
    let text' := "#KVM_GO_START\nCOMMIT\n#KVM_GO_END"
    (indented.validate = .ok () ∧ indented.perimeter.block.Marked (Text.lines text.toList) ∧
        indented.perimeter.block.withRule text "-A x"
          = .error (.blockNotFound " #KVM_GO_START" "#KVM_GO_END")) ∧
      blank.validate = .ok () ∧ blank.perimeter.block.Marked (Text.lines text'.toList) ∧
      blank.perimeter.block.toggled true text' = "#KVM_GO_START\n  COMMIT\n#KVM_GO_END" ∧
      blank.perimeter.block.isCommented (blank.perimeter.block.toggled true text').toList = false ∧
      blank.perimeter.block.toggled true (blank.perimeter.block.toggled true text')
        = "#KVM_GO_START\n    COMMIT\n#KVM_GO_END" := by
  intro indented blank text text'
  refine ⟨⟨by decide +kernel, ⟨[], ["COMMIT".toList], [], by decide +kernel⟩, by decide +kernel⟩,
    by decide +kernel, ⟨[], ["COMMIT".toList], [], by decide +kernel⟩, ?_⟩
  decide +kernel

end GuestPorts.Settings
