/-
  GuestPorts/Proofs/Perimeter/Block.lean
  ======================================
  **Where the managed block lies** before and after an edit.

  The place of the block is said by its sentinels (`Block.Delimits`), and the block is found
  where they are and nowhere else (`Block.locate_eq_some_iff`).  An edit of the inner lines
  leaves the sentinels where they were, so the next one finds the same frame around other
  lines, as long as no new line is a closing sentinel (`Block.Delimits.edit`).
-/
import GuestPorts.Perimeter.Block
import GuestPorts.Proofs.Text.Split

namespace GuestPorts.Perimeter

theorem cutBefore_eq_some_iff {α : Type} {p : α → Bool} {xs front rest : List α} :
    cutBefore p xs = some (front, rest) ↔
      xs = front ++ rest ∧ (∀ a ∈ front, p a = false) ∧ ∃ a r, rest = a :: r ∧ p a = true := by
  induction xs generalizing front with
  | nil =>
    simp only [cutBefore]
    constructor
    · nofun
    · rintro ⟨hnil, -, a, r, rfl, -⟩
      simp at hnil
  | cons x xs ih =>
    simp only [cutBefore]
    by_cases hx : p x = true
    · rw [if_pos hx]
      constructor
      · intro h
        cases h
        exact ⟨rfl, nofun, x, xs, rfl, hx⟩
      · rintro ⟨hxs, hfront, hrest⟩
        cases front with
        | nil => rw [hxs, List.nil_append]
        | cons a as =>
          obtain ⟨rfl, -⟩ := List.cons.inj hxs
          rw [hfront x List.mem_cons_self] at hx
          cases hx
    · rw [if_neg hx, Option.map_eq_some_iff]
      constructor
      · rintro ⟨⟨as, bs⟩, hcut, h⟩
        cases h
        obtain ⟨rfl, has, hbs⟩ := ih.1 hcut
        exact ⟨rfl, List.forall_mem_cons.2 ⟨Bool.eq_false_iff.2 hx, has⟩, hbs⟩
      · rintro ⟨hxs, hfront, hrest⟩
        cases front with
        | nil =>
          obtain ⟨a, r, rfl, ha⟩ := hrest
          obtain ⟨rfl, -⟩ := List.cons.inj hxs
          exact absurd ha hx
        | cons a as =>
          obtain ⟨rfl, rfl⟩ := List.cons.inj hxs
          have has : ∀ a ∈ as, p a = false := fun a ha => hfront a (List.mem_cons_of_mem x ha)
          exact ⟨(as, rest), ih.2 ⟨rfl, has, hrest⟩, rfl⟩

namespace Block

/-- Only a commented line loses its marker. -/
theorem uncommentLine_of_not_commented {b : Block} {line : Line}
    (h : b.isLineCommented line = false) : b.uncommentLine line = line := by
  unfold uncommentLine
  split
  · next rest hrest =>
    have hprefix : b.commentMarker.toList <+: Text.trimStart line :=
      ⟨rest, (Text.afterFront_eq_some_iff.1 hrest).symm⟩
    rw [isLineCommented, List.isPrefixOf_iff_prefix.2 hprefix] at h
    cases h
  · rfl

/-- The sentinels are where they are said to be, and no line before them is one. -/
structure Delimits (b : Block) (l : Located) : Prop where
  before : ∃ front opening, l.before = front ++ [opening] ∧
    (∀ line ∈ front, isSentinel b.startMarker line = false) ∧
      isSentinel b.startMarker opening = true
  inside : ∀ line ∈ l.inside, isSentinel b.endMarker line = false
  after : ∃ closing rest, l.after = closing :: rest ∧ isSentinel b.endMarker closing = true

variable {b : Block} {l : Located} {lines : List Line}

/-- **The block is found where its sentinels are.** -/
theorem locate_eq_some_iff : b.locate lines = some l ↔ lines = l.lines ∧ b.Delimits l := by
  unfold locate
  constructor
  · intro h
    split at h
    · next front opening rest hstart =>
      split at h
      · next inside after hend =>
        cases h
        obtain ⟨rfl, hfront, x, xs, hx, hopening⟩ := cutBefore_eq_some_iff.1 hstart
        obtain ⟨rfl, rfl⟩ := List.cons.inj hx
        obtain ⟨rfl, hinside, hafter⟩ := cutBefore_eq_some_iff.1 hend
        exact ⟨by simp [Located.lines], ⟨front, opening, rfl, hfront, hopening⟩, hinside, hafter⟩
      · cases h
    · cases h
  · rintro ⟨rfl, ⟨front, opening, hbefore, hfront, hopening⟩, hinside, hafter⟩
    have hend := cutBefore_eq_some_iff.2 ⟨rfl, hinside, hafter⟩
    have hstart := cutBefore_eq_some_iff.2
      ⟨rfl, hfront, opening, l.inside ++ l.after, rfl, hopening⟩
    have hlines : l.lines = front ++ opening :: (l.inside ++ l.after) := by
      simp [Located.lines, hbefore]
    rw [hlines, hstart]
    simp only [hend, ← hbefore]

theorem Delimits.after_ne_nil (h : b.Delimits l) : l.after ≠ [] := by
  obtain ⟨closing, rest, hafter, -⟩ := h.after
  simp [hafter]

theorem Delimits.edit (h : b.Delimits l) {inside : List Line}
    (hinside : ∀ line ∈ inside, isSentinel b.endMarker line = false) :
    b.Delimits { l with inside := inside } where
  before := h.before
  inside := hinside
  after := h.after

/-- **Whatever stands between the sentinels, the block is found**: it ends at the first line there
    that closes it, if not where it ended before. -/
theorem Delimits.locate_between (h : b.Delimits l) (between : List Line) :
    b.locate (l.before ++ between ++ l.after) = some ⟨l.before,
      between.takeWhile fun line => !isSentinel b.endMarker line,
      (between.dropWhile fun line => !isSentinel b.endMarker line) ++ l.after⟩ := by
  rw [locate_eq_some_iff]
  refine ⟨?_, h.before, ?_, ?_⟩
  · simp only [Located.lines, List.append_assoc]
    rw [← List.append_assoc (List.takeWhile _ _), List.takeWhile_append_dropWhile]
  · intro line hline
    simpa using List.all_eq_true.1 List.all_takeWhile line hline
  · have hhead := List.head?_dropWhile_not (fun line => !isSentinel b.endMarker line) between
    cases hrest : between.dropWhile fun line => !isSentinel b.endMarker line with
    | nil => exact h.after
    | cons closing rest =>
      rw [hrest] at hhead
      exact ⟨closing, rest ++ l.after, rfl, by simpa using hhead⟩

theorem Delimits.exists_locate (h : b.Delimits l) (between : List Line) :
    ∃ inside rest, between = inside ++ rest ∧
      b.locate (l.before ++ between ++ l.after) = some ⟨l.before, inside, rest ++ l.after⟩ :=
  ⟨_, _, List.takeWhile_append_dropWhile.symm, h.locate_between between⟩

/-- A text made of lines is taken apart into the same lines. -/
theorem Delimits.locate_unlines (h : b.Delimits l) (hlines : ∀ line ∈ l.lines, '\n' ∉ line) :
    b.locate (Text.lines (Text.unlines l.lines)) = some l := by
  rw [Text.lines_unlines (by simp [Located.lines, h.after_ne_nil]) hlines]
  exact locate_eq_some_iff.2 ⟨rfl, h⟩

theorem mapInside_of_locate {text : List Char} {found : Located}
    (h : b.locate (Text.lines text) = some found) (f : List Line → List Line) :
    b.mapInside f text = Text.unlines { found with inside := f found.inside }.lines := by
  simp only [mapInside, h]

theorem unlines_of_locate {text : List Char} {found : Located}
    (h : b.locate (Text.lines text) = some found) : Text.unlines found.lines = text := by
  rw [← (locate_eq_some_iff.1 h).1, Text.unlines_lines]

theorem ofList_of_locate {text : String} {found : Located}
    (h : b.locate (Text.lines text.toList) = some found) :
    String.ofList (Text.unlines found.lines) = text := by
  rw [unlines_of_locate h, String.ofList_toList]

theorem notMem_of_locate {text : List Char} {found : Located}
    (h : b.locate (Text.lines text) = some found) : ∀ line ∈ found.lines, '\n' ∉ line := by
  intro line hline
  rw [← (locate_eq_some_iff.1 h).1] at hline
  exact Text.notMem_of_mem_splitAt hline

theorem Delimits.mapInside_unlines (h : b.Delimits l) (hlines : ∀ line ∈ l.lines, '\n' ∉ line)
    (f : List Line → List Line) :
    b.mapInside f (Text.unlines l.lines) = Text.unlines { l with inside := f l.inside }.lines := by
  unfold mapInside
  rw [h.locate_unlines hlines]

end Block

end GuestPorts.Perimeter
