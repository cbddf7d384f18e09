/-
  GuestPorts/Proofs/Yaml/Scan.lean
  ================================
  **The scan as steps from token to token.**

  A state is *settled* when the blanks in front of its next token are passed and keys that
  can no longer be are given up (`settle`).  A step reads one token and settles again
  (`Moves`); it gets shorter with every step, so a text of so many characters is scanned with
  that much fuel (`run_of_reaches`).

  Where no bracket is open and no key is awaited a state is a block state (`block`): a place,
  the tokens before it, the columns of the open collections, and whether a key may start.
-/
import GuestPorts.Proofs.Yaml.Gap
import Mathlib.Logic.Relation

namespace GuestPorts.Yaml.Scan

/-! ### Steps -/

/-- Go to the next token. -/
def settle (s : Scan) : Option Scan :=
  let (keyAllowed, cur) := skipToToken s.inFlow (s.cursor.rest.length + 1) s.keyAllowed s.cursor
  dropStale { s with keyAllowed, cursor := cur }

def finish (s : Scan) : Option (List Token) :=
  (s.unwind none).dropCandidate.map fun s => s.tokens ++ [.streamEnd]

/-- From the place of a token to the next one. -/
structure Moves (s t : Scan) : Prop where
  read : (s.unwind (some s.cursor.column)).readToken.bind settle = some t
  progress : t.cursor.rest.length < s.cursor.rest.length

def Reaches : Scan → Scan → Prop := Relation.ReflTransGen Moves

theorem Moves.reaches {s t : Scan} (h : Moves s t) : Reaches s t := Relation.ReflTransGen.single h

theorem Reaches.trans {s t u : Scan} (h : Reaches s t) (h' : Reaches t u) : Reaches s u :=
  Relation.ReflTransGen.trans h h'

theorem run_succ (fuel : Nat) (s : Scan) :
    run (fuel + 1) s = s.settle.bind fun s =>
      if s.cursor.rest.isEmpty then s.finish
      else (s.unwind (some s.cursor.column)).readToken.bind (run fuel) := by
  rw [run, settle]
  obtain ⟨keyAllowed, cur⟩ := skipToToken s.inFlow (s.cursor.rest.length + 1) s.keyAllowed s.cursor
  cases hdrop : dropStale { s with keyAllowed, cursor := cur } with
  | none => simp only [hdrop, Option.bind_none]
  | some t =>
    simp only [hdrop, Option.bind_some]
    split
    · cases hlast : (t.unwind none).dropCandidate <;> simp [finish, hlast]
    · rfl

/-- **A run follows the steps**, and has enough fuel for them. -/
theorem run_of_reaches {s t : Scan} {ts : List Token} (h : Reaches s t) {first : Scan}
    (hfirst : first.settle = some s) (hend : t.cursor.rest = []) (hts : t.finish = some ts)
    {fuel : Nat} (hfuel : s.cursor.rest.length < fuel) : run fuel first = some ts := by
  obtain ⟨fuel, rfl⟩ : ∃ n, fuel = n + 1 := ⟨fuel - 1, by omega⟩
  induction h using Relation.ReflTransGen.head_induction_on generalizing fuel first with
  | refl =>
    rw [run_succ, hfirst, Option.bind_some, hend, List.isEmpty_nil, if_pos rfl, hts]
  | @head s u hmove hmore ih =>
    have hprogress := hmove.progress
    obtain ⟨fuel, rfl⟩ : ∃ n, fuel = n + 1 := ⟨fuel - 1, by omega⟩
    obtain ⟨next, hread, hsettle⟩ := Option.bind_eq_some_iff.1 hmove.read
    have hstarted : s.cursor.rest.isEmpty = false :=
      List.isEmpty_eq_false_iff.2 (List.ne_nil_of_length_pos (Nat.zero_lt_of_lt hprogress))
    rw [run_succ, hfirst, Option.bind_some, hstarted, if_neg Bool.false_ne_true, hread,
      Option.bind_some]
    exact ih hsettle fuel (by omega)

/-! ### Between tokens -/

/-- A text that starts with a token, if it starts at all. -/
def Begins (k : List Char) : Prop :=
  ∀ c ∈ k.head?, isInk c = true ∧ c ≠ '#' ∧ c ≠ '\ufeff'

theorem begins_nil : Begins [] := nofun

theorem Begins.inked {k : List Char} (hk : Begins k) : Inked k := fun c hc => (hk c hc).1

section Skip

variable {k : List Char} {l c i m : Nat} {inFlow keyAllowed : Bool}

theorem takeWhile_spaces (hk : Begins k) (p : Char → Bool) :
    (List.replicate m ' ' ++ k).takeWhile (fun c => c = ' ' || (p c && c = '\t'))
      = List.replicate m ' ' := by
  rw [List.takeWhile_append_of_pos (by simp [List.mem_replicate])]
  cases k with
  | nil => simp
  | cons d k =>
    have hne : d ≠ ' ' ∧ d ≠ '\t' := by
      obtain ⟨hgap, -⟩ := isInk_iff.1 (hk d rfl).1
      simpa [isGap] using hgap
    rw [List.takeWhile_cons_of_neg (by simp [hne]), List.append_nil]

theorem not_bom_of_begins (hk : Begins k) : k.head? ≠ some '\ufeff' := by
  intro hbom
  exact (hk '\ufeff' hbom).2.2 rfl

theorem not_comment_of_begins (hk : Begins k) : k.head? ≠ some '#' := by
  intro hcomment
  exact (hk '#' hcomment).2.1 rfl

theorem not_break_of_inked {k : List Char} (hk : Inked k) : k.head?.any isBreak = false := by
  cases k with
  | nil => rfl
  | cons d k => exact (isInk_iff.1 (hk d rfl)).2

/-- Spaces in front of a token are passed. -/
theorem skipToToken_spaces (hk : Begins k) (fuel : Nat) :
    skipToToken inFlow (fuel + 1) keyAllowed ⟨List.replicate m ' ' ++ k, l, c, i⟩
      = (keyAllowed, ⟨k, l, c + m, i + m⟩) := by
  have hbom : (List.replicate m ' ' ++ k).head? ≠ some '\ufeff' := by
    cases m with
    | zero => exact not_bom_of_begins hk
    | succ m => simp [List.replicate_succ]
  have hskip := takeWhile_spaces (m := m) hk fun _ => inFlow || !keyAllowed
  have hplace := Cursor.skip_append (r := k) (l := l) (c := c) (i := i) (List.replicate m ' ')
  rw [List.length_replicate] at hplace
  rw [skipToToken]
  simp only [hbom, decide_false, Bool.and_false, Bool.false_eq_true, if_false, Cursor.skipWhile,
    hskip, List.length_replicate, hplace, not_comment_of_begins hk, not_break_of_inked hk.inked]

/-- The end of a line in front of a token is passed, and a key may start behind it. -/
theorem skipToToken_break (hk : Begins k) (fuel : Nat) :
    skipToToken false (fuel + 2) keyAllowed ⟨'\n' :: (List.replicate m ' ' ++ k), l, c, i⟩
      = (true, ⟨k, l + 1, m, i + 1 + m⟩) := by
  have hmore : skipToToken false (fuel + 1) true ⟨List.replicate m ' ' ++ k, l + 1, 0, i + 1⟩
      = (true, ⟨k, l + 1, 0 + m, i + 1 + m⟩) := skipToToken_spaces hk fuel
  rw [Nat.zero_add] at hmore
  rw [skipToToken]
  simpa [Cursor.skipWhile, Cursor.skip, isBreak, Cursor.nextLine] using hmore

theorem settle_spaces {s : Scan} (hk : Begins k)
    (hx : s.cursor.rest = List.replicate m ' ' ++ k) :
    s.settle = dropStale
      { s with cursor := ⟨k, s.cursor.line, s.cursor.column + m, s.cursor.index + m⟩ } := by
  obtain ⟨⟨rest, l, c, i⟩, tokens, columns, candidate, outer, keyAllowed⟩ := s
  obtain rfl : rest = List.replicate m ' ' ++ k := hx
  rw [settle, skipToToken_spaces hk]

theorem settle_break {s : Scan} (hflow : s.outer = []) (hk : Begins k)
    (hx : s.cursor.rest = '\n' :: (List.replicate m ' ' ++ k)) :
    s.settle = dropStale
      { s with keyAllowed := true,
               cursor := ⟨k, s.cursor.line + 1, m, s.cursor.index + 1 + m⟩ } := by
  obtain ⟨⟨rest, l, c, i⟩, tokens, columns, candidate, outer, keyAllowed⟩ := s
  obtain rfl : rest = '\n' :: (List.replicate m ' ' ++ k) := hx
  obtain rfl : outer = [] := hflow
  have hskip : skipToToken false (('\n' :: (List.replicate m ' ' ++ k)).length + 1) keyAllowed
        ⟨'\n' :: (List.replicate m ' ' ++ k), l, c, i⟩
      = (true, ⟨k, l + 1, m, i + 1 + m⟩) := skipToToken_break hk _
  simp only [settle, inFlow, List.isEmpty_nil, Bool.not_true, hskip]

/-- The next token is where the reader has come to. -/
theorem settle_here {s : Scan} (hk : Begins s.cursor.rest) : s.settle = dropStale s := by
  have hx : s.cursor.rest = List.replicate 0 ' ' ++ s.cursor.rest := rfl
  exact settle_spaces hk hx

end Skip

/-! ### Block states -/

/-- A state outside all brackets in which no key is awaited. -/
def block (x : Cursor) (tokens : List Token) (columns : List Nat) (keyAllowed : Bool) : Scan :=
  { cursor := x, tokens, columns, keyAllowed }

section Block

variable {x y : Cursor} {tokens : List Token} {columns : List Nat} {o : Nat} {keyAllowed : Bool}

theorem dropStale_block : (block x tokens columns keyAllowed).dropStale
    = some (block x tokens columns keyAllowed) := rfl

/-- A place that a line has ended behind is given up. -/
theorem dropStale_line {candidate : Candidate} (hneeded : candidate.needed = false)
    (hline : candidate.line < x.line) :
    dropStale { block x tokens columns keyAllowed with candidate := some candidate }
      = some (block x tokens columns keyAllowed) := by
  have hstale : isStale x candidate = true := by simp [isStale, hline]
  simp [dropStale, block, hstale, hneeded]

/-- A place is kept within its line and for 1024 characters. -/
theorem dropStale_kept {candidate : Candidate} (hline : candidate.line = x.line)
    (hindex : x.index ≤ candidate.index + 1024) :
    dropStale { block x tokens columns keyAllowed with candidate := some candidate }
      = some { block x tokens columns keyAllowed with candidate := some candidate } := by
  have hstale : isStale x candidate = false := by
    simp [isStale, hline, hindex]
  simp [dropStale, block, hstale]

/-- No collection ends at a column that is not left of it. -/
theorem unwind_of_le {s : Scan} (h : ∀ o ∈ s.columns.head?, o ≤ s.cursor.column) :
    s.unwind (some s.cursor.column) = s := by
  obtain ⟨x, tokens, columns, candidate, outer, keyAllowed⟩ := s
  cases columns with
  | nil => simp [unwind, closeBlocks]
  | cons o columns =>
    have hle : ¬x.column < o := Nat.not_lt.2 (h o rfl)
    simp [unwind, closeBlocks, hle]

theorem unwind_inside (ho : o ≤ x.column) :
    (block x tokens (o :: columns) keyAllowed).unwind
        (some (block x tokens (o :: columns) keyAllowed).cursor.column)
      = block x tokens (o :: columns) keyAllowed := by
  apply unwind_of_le
  intro p hp
  obtain rfl : o = p := Option.some.inj hp
  exact ho

/-- A step at a place that is not left of the open collection. -/
theorem moves_inside {s t : Scan} (ho : o ≤ x.column)
    (htoken : (block x tokens (o :: columns) keyAllowed).readToken = some s)
    (hsettle : s.settle = some t) (hlength : t.cursor.rest.length < x.rest.length) :
    Moves (block x tokens (o :: columns) keyAllowed) t where
  read := by rw [unwind_inside ho, htoken, Option.bind_some, hsettle]
  progress := hlength

/-- What is remembered of a token that starts at a place where a key may start: a key is needed in
    the column of the collection. -/
def candidateAt (x : Cursor) (tokens : List Token) (columns : List Nat) : Candidate :=
  ⟨decide (columns.head? = some x.column), tokens.length, x.line, x.column, x.index⟩

theorem candidateAt_needed (ho : o ≠ x.column) :
    (candidateAt x tokens (o :: columns)).needed = false := by
  simp [candidateAt, ho]

theorem readLeaf_block {read : Cursor → Option (Token × Cursor × Bool)} {token : Token}
    {broken : Bool} (hread : read x = some (token, y, broken)) :
    (block x tokens columns keyAllowed).readLeaf read
      = some { block y (tokens ++ [token]) columns broken with
          candidate := if keyAllowed then some (candidateAt x tokens columns) else none } := by
  cases keyAllowed with
  | true =>
    have hnoted : (block x tokens columns true).noteCandidate
        = some { block x tokens columns true with
            candidate := some (candidateAt x tokens columns) } := rfl
    rw [readLeaf, hnoted]
    simp [block, emit, hread]
  | false => simp [readLeaf, noteCandidate, block, emit, hread]

end Block

end GuestPorts.Yaml.Scan
