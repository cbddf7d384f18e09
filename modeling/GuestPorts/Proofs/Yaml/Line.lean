/-
  GuestPorts/Proofs/Yaml/Line.lean
  ================================
  **A collection is read line by line** (`exists_reaches_lines`).

  Each line of a collection holds a name with its value or a hyphen with an element.  The
  first name of a mapping opens it (`Opens`); behind its lines the scan stands at the next
  token with the collection still open.
-/
import GuestPorts.Proofs.Yaml.Value

namespace GuestPorts.Yaml.Scan

/-! ### Names -/

def isNameChar (c : Char) : Bool := ('a' ≤ c && c ≤ 'z') || c = '_'

structure IsName (name : List Char) : Prop where
  ne_nil : name ≠ []
  chars : ∀ c ∈ name, isNameChar c = true
  short : name.length ≤ 1024

/-- The check of a name that is written out. -/
theorem isName_of_all {name : List Char} (hne : name ≠ []) (hchars : name.all isNameChar = true)
    (hshort : name.length ≤ 1024) : IsName name := ⟨hne, List.all_eq_true.1 hchars, hshort⟩

theorem ne_of_isNameChar {c d : Char} (hc : isNameChar c = true) (hd : isNameChar d = false) :
    c ≠ d := by
  rintro rfl
  rw [hc] at hd
  cases hd

theorem isInk_of_isNameChar {c : Char} (hc : isNameChar c = true) : isInk c = true := by
  rw [isInk_iff]
  constructor
  · cases hgap : isGap c with
    | false => rfl
    | true =>
      simp only [isGap, Bool.or_eq_true, decide_eq_true_eq] at hgap
      rcases hgap with rfl | rfl <;> exact absurd hc (by decide)
  · cases hbreak : isBreak c with
    | false => rfl
    | true =>
      simp only [isBreak, Bool.or_eq_true, decide_eq_true_eq] at hbreak
      rcases hbreak with (((rfl | rfl) | rfl) | rfl) | rfl <;> exact absurd hc (by decide)

theorem startsPlain_of_isNameChar {c : Char} (hc : isNameChar c = true) (r : List Char) :
    StartsPlain c r where
  ink := isInk_of_isNameChar hc
  indicator := by
    have hall : "#,[]\x7b\x7d&*!|>'\"%@`".toList.all (fun d => !isNameChar d) = true := by decide
    cases hindicator : isIndicator c with
    | false => rfl
    | true =>
      have hd := List.all_eq_true.1 hall c (List.contains_iff_mem.1 hindicator)
      simp [hc] at hd
  mark := by
    rintro (rfl | rfl | rfl) <;> exact absurd hc (by decide)

theorem begins_of_isNameChar {c : Char} (hc : isNameChar c = true) (t : List Char) :
    Begins (c :: t) :=
  begins_cons (isInk_of_isNameChar hc) (ne_of_isNameChar hc (by decide))
    (ne_of_isNameChar hc (by decide)) t

theorem isTextChar_of_isNameChar {c : Char} (h : isNameChar c = true) : isTextChar c = true := by
  simp only [isNameChar, Bool.or_eq_true, Bool.and_eq_true, decide_eq_true_eq, Char.le_def,
    UInt32.le_iff_toNat_le] at h
  rcases h with ⟨hlow, hhigh⟩ | rfl
  · have hlow : 0x20 ≤ c.toNat := Nat.le_trans (by decide) hlow
    have hhigh : c.toNat ≤ 0x7E := Nat.le_trans hhigh (by decide)
    simp [isTextChar, hlow, hhigh]
  · decide

theorem IsName.printable {name : List Char} (h : IsName name) : Printable name :=
  fun c hc => isTextChar_of_isNameChar (h.chars c hc)

theorem IsName.isPlainWord {name : List Char} (h : IsName name) : IsPlainWord name where
  ne_nil := h.ne_nil
  ink := fun c hc => isInk_of_isNameChar (h.chars c hc)
  comment := by
    intro hcomment
    exact absurd (h.chars '#' (List.mem_of_head? hcomment)) (by decide)
  colon := by
    intro hcolon
    exact absurd (h.chars ':' (List.mem_of_getLast? hcolon)) (by decide)

theorem startsBadly_of_isName {name : List Char} (h : IsName name) : startsBadly name = false := by
  obtain ⟨d, r, rfl⟩ := List.exists_cons_of_ne_nil h.ne_nil
  have hd := h.chars d List.mem_cons_self
  have hstart := startsPlain_of_isNameChar hd r
  have hne := fun c hc => ne_of_isNameChar (d := c) hd hc
  simp [startsBadly, hstart.indicator, List.isPrefixOf, Ne.symm (hne '-' (by decide)),
    Ne.symm (hne '.' (by decide)), hne '-' (by decide), hne '?' (by decide), hne ':' (by decide)]

/-- A name can be written plain. -/
theorem reads_word {word : List Char} (h : IsName word) (o : Nat) :
    Reads o (word ++ ['\n']) [.scalar .plain word] := by
  have hbom : word.head? ≠ some '\ufeff' := fun hbom =>
    absurd (h.chars _ (List.mem_of_head? hbom)) (by decide)
  have hprintable : Printable (word ++ ['\n']) :=
    h.printable.append (printable_nil.cons (by decide))
  exact reads_plain (.word h.isPlainWord) hbom (startsBadly_of_isName h) hprintable o

/-! ### Keys -/

/-- A key in a column either belongs to the mapping there or opens one further right. -/
inductive Opens (c : Nat) : List Nat → List Token → List Nat → Prop where
  | same (columns : List Nat) : Opens c (c :: columns) [] (c :: columns)
  | deeper {columns : List Nat} (h : ∀ o ∈ columns.head?, o < c) :
      Opens c columns [.blockMapping] (c :: columns)

theorem Opens.le {c : Nat} {columns columns' : List Nat} {marks : List Token}
    (h : Opens c columns marks columns') : ∀ o ∈ columns.head?, o ≤ c := by
  cases h with
  | same columns =>
    intro o ho
    exact Nat.le_of_eq (Option.some.inj ho).symm
  | deeper h => exact fun o ho => Nat.le_of_lt (h o ho)

section Keys

variable {x y : Cursor} {tokens marks : List Token} {columns columns' : List Nat}
  {name t : List Char} {l c i : Nat}

theorem insertIdx_append {α : Type} (xs ys : List α) (a : α) :
    (xs ++ ys).insertIdx xs.length a = xs ++ a :: ys := by
  induction xs with
  | nil => rfl
  | cons x xs ih => rw [List.cons_append, List.length_cons, List.insertIdx_succ_cons, ih, List.cons_append]

/-- The colon behind a token inserts the mark of a key in front of it, and the mark of a mapping in
    front of that if the key opens one. -/
theorem readValue_key (hopens : Opens c columns marks columns')
    (candidate : Candidate) (hcolumn : candidate.column = c)
    (hposition : candidate.position = tokens.length) (token : Token) :
    readValue { block x (tokens ++ [token]) columns false with candidate := some candidate }
      = some (block (x.skip 1) (tokens ++ (marks ++ [.key, token, .value])) columns' false) := by
  obtain ⟨needed, position, line, column, index⟩ := candidate
  obtain rfl : column = c := hcolumn
  obtain rfl : position = tokens.length := hposition
  cases hopens with
  | same columns =>
    simp [readValue, block, insertIdx_append, openBlock, inFlow, column?, emit]
  | deeper h =>
    have hdeeper : columns.head?.all (· < column) = true := by
      cases columns with
      | nil => rfl
      | cons o columns => exact decide_eq_true (h o rfl)
    simp [readValue, block, insertIdx_append, openBlock, inFlow, column?, emit, hdeeper]

theorem readToken_colon {s : Scan} (hx : s.cursor.rest = ':' :: t) (ht : atGap t = true) :
    s.readToken = s.readValue := by
  have hmarker : s.cursor.atMarker '-' = false ∧ s.cursor.atMarker '.' = false :=
    ⟨Cursor.atMarker_of_ne hx (by decide), Cursor.atMarker_of_ne hx (by decide)⟩
  simp [readToken, hx, hmarker, ht]

/-- The state between a name and its colon. -/
def atColon (name t : List Char) (l c i : Nat) (tokens : List Token) (columns : List Nat) : Scan :=
  { block ⟨':' :: t, l, c + name.length, i + name.length⟩ (tokens ++ [.scalar .plain name]) columns
      false with
    candidate := some (candidateAt ⟨name ++ ':' :: t, l, c, i⟩ tokens columns) }

theorem moves_name (hname : IsName name) (hle : ∀ o ∈ columns.head?, o ≤ c)
    (ht : atGap t = true) (tokens : List Token) :
    Moves (block ⟨name ++ ':' :: t, l, c, i⟩ tokens columns true)
      (atColon name t l c i tokens columns) := by
  have hpos := List.length_pos_iff.2 hname.ne_nil
  constructor
  · obtain ⟨d, r, rfl⟩ := List.exists_cons_of_ne_nil hname.ne_nil
    have hd := hname.chars d List.mem_cons_self
    have hdash : d ≠ '-' := ne_of_isNameChar hd (by decide)
    have hdot : d ≠ '.' := ne_of_isNameChar hd (by decide)
    have htoken := readToken_plain (x := ⟨d :: r ++ ':' :: t, l, c, i⟩)
      (startsPlain_of_isNameChar hd (r ++ ':' :: t)) rfl
      ⟨Cursor.atMarker_of_ne rfl hdash, Cursor.atMarker_of_ne rfl hdot⟩ tokens columns true
    have hread := plainToken_key (l := l) (c := c) (i := i) hname.isPlainWord ht
      (by simp [hdash, hdot]) ((columns.head?.map (· + 1)).getD 0)
    rw [unwind_of_le hle, htoken, readLeaf_block hread, Option.bind_some, settle_here]
    · have hshort := hname.short
      exact dropStale_kept rfl (Nat.add_le_add_left hshort i)
    · exact begins_cons (by decide) (by decide) (by decide) t
  · simp only [atColon, block, List.length_append, List.length_cons]
    omega

theorem moves_colon (hopens : Opens c columns marks columns')
    (ht : atGap t = true) {z : Cursor} {allowed : Bool}
    (hsettle : settle (block ⟨t, l, c + name.length + 1, i + name.length + 1⟩
        (tokens ++ (marks ++ [.key, .scalar .plain name, .value])) columns' false)
      = some (block z (tokens ++ (marks ++ [.key, .scalar .plain name, .value])) columns' allowed))
    (hlength : z.rest.length ≤ t.length) :
    Moves (atColon name t l c i tokens columns)
      (block z (tokens ++ (marks ++ [.key, .scalar .plain name, .value])) columns' allowed) where
  read := by
    have hle : ∀ o ∈ columns.head?, o ≤ c + name.length := fun o ho =>
      Nat.le_add_right_of_le (hopens.le o ho)
    have hvalue := readValue_key (x := ⟨':' :: t, l, c + name.length, i + name.length⟩) hopens
      (candidateAt ⟨name ++ ':' :: t, l, c, i⟩ tokens columns) rfl rfl (.scalar .plain name)
    have hstate : (atColon name t l c i tokens columns).unwind
        (some (atColon name t l c i tokens columns).cursor.column)
        = atColon name t l c i tokens columns := unwind_of_le hle
    rw [hstate, readToken_colon rfl ht, atColon, hvalue, Option.bind_some]
    exact hsettle
  progress := Nat.lt_succ_of_le hlength

/-- **A name in front of a colon is a key**, and its value is next in the same line. -/
theorem exists_reaches_key_value {v : List Char} (hname : IsName name)
    (hopens : Opens x.column columns marks columns') (hv : Begins v)
    (hx : x.rest = name ++ ':' :: ' ' :: v) (tokens : List Token) :
    ∃ y : Cursor, y.rest = v ∧ x.column < y.column ∧
      Reaches (block x tokens columns true)
        (block y (tokens ++ (marks ++ [.key, .scalar .plain name, .value])) columns' false) := by
  obtain ⟨rest, l, c, i⟩ := x
  obtain rfl : rest = name ++ ':' :: ' ' :: v := hx
  have hmove := moves_name (l := l) (i := i) (t := ' ' :: v) hname hopens.le rfl tokens
  refine ⟨⟨v, l, c + name.length + 1 + 1, i + name.length + 1 + 1⟩, rfl, by simp only; omega,
    hmove.reaches.trans (moves_colon hopens rfl ?_ (Nat.le_succ _)).reaches⟩
  exact (settle_spaces (m := 1) hv rfl).trans dropStale_block

/-- A key whose value is in the lines below it. -/
theorem exists_reaches_key_lines {k : List Char} {m : Nat} (hname : IsName name)
    (hopens : Opens x.column columns marks columns') (hk : Begins k)
    (hx : x.rest = name ++ ':' :: '\n' :: (List.replicate m ' ' ++ k)) (tokens : List Token) :
    ∃ y : Cursor, y.rest = k ∧ y.column = m ∧
      Reaches (block x tokens columns true)
        (block y (tokens ++ (marks ++ [.key, .scalar .plain name, .value])) columns' true) := by
  obtain ⟨rest, l, c, i⟩ := x
  obtain rfl : rest = name ++ ':' :: '\n' :: (List.replicate m ' ' ++ k) := hx
  have hmove := moves_name (l := l) (i := i) (t := '\n' :: (List.replicate m ' ' ++ k)) hname
    hopens.le rfl tokens
  have hlength : k.length ≤ ('\n' :: (List.replicate m ' ' ++ k)).length := by
    rw [List.length_cons, List.length_append]
    omega
  refine ⟨⟨k, l + 1, m, i + name.length + 1 + 1 + m⟩, rfl, rfl,
    hmove.reaches.trans (moves_colon hopens rfl ?_ hlength).reaches⟩
  exact (settle_break rfl hk rfl).trans dropStale_block

end Keys

/-! ### Lines -/

/-- A line that reads as some tokens in a column, together with the indentation of the token behind
    it.  It may open the collection of its column. -/
structure ReadsLine (o : Nat) (columns columns' : List Nat) (text : List Char) (read : List Token) :
    Prop where
  begins : ∀ t, Begins (text ++ t)
  printable : Printable text
  reaches : ∀ {x : Cursor} {k : List Char} {m : Nat}, m ≤ o → Begins k → x.column = o →
    x.rest = text ++ (List.replicate m ' ' ++ k) → ∀ tokens,
    ∃ y : Cursor, y.rest = k ∧ y.column = m ∧
      Reaches (block x tokens columns true) (block y (tokens ++ read) columns' true)

/-- A field of a mapping. -/
theorem readsLine_field {o : Nat} {columns columns' : List Nat} {marks read : List Token}
    {name text : List Char} (hname : IsName name) (hopens : Opens o columns marks (o :: columns'))
    (hvalue : Reads o text read) :
    ReadsLine o columns (o :: columns') (name ++ ':' :: ' ' :: text)
      (marks ++ ([.key, .scalar .plain name, .value] ++ read)) where
  begins := by
    intro t
    obtain ⟨d, r, rfl⟩ := List.exists_cons_of_ne_nil hname.ne_nil
    exact begins_of_isNameChar (hname.chars d List.mem_cons_self) _
  printable :=
    hname.printable.append ((hvalue.printable.cons (by decide)).cons (by decide))
  reaches := by
    rintro x k m hm hk rfl hx tokens
    simp only [List.append_assoc, List.cons_append] at hx
    obtain ⟨y, hy, hless, hkey⟩ :=
      exists_reaches_key_value hname hopens (hvalue.begins _) hx tokens
    obtain ⟨z, hz, hend, hread⟩ := hvalue.reaches hm hk hless hy
      (tokens ++ (marks ++ [.key, .scalar .plain name, .value])) columns' false
    refine ⟨z, hz, hend, hkey.trans ?_⟩
    rw [List.append_assoc, List.append_assoc] at hread
    exact hread

theorem readToken_hyphen {s : Scan} {t : List Char} (hx : s.cursor.rest = '-' :: ' ' :: t) :
    s.readToken = s.readEntry := by
  have hdot : s.cursor.atMarker '.' = false := Cursor.atMarker_of_ne hx (by decide)
  have hdash : s.cursor.atMarker '-' = false := by simp [Cursor.atMarker, hx, List.isPrefixOf]
  simp [readToken, hx, hdot, hdash, atGap, isGap]

/-- A hyphen in the column of a collection opens none. -/
theorem readEntry_block {x : Cursor} {tokens : List Token} {columns : List Nat} :
    (block x tokens (x.column :: columns) true).readEntry
      = some (block (x.skip 1) (tokens ++ [.blockEntry]) (x.column :: columns) true) := by
  simp [readEntry, block, inFlow, openBlock, column?, dropCandidate, emit]

/-- An element of a sequence in the column of its mapping. -/
theorem readsLine_entry {o : Nat} {columns : List Nat} {text : List Char} {read : List Token}
    (hvalue : Reads o text read) :
    ReadsLine o (o :: columns) (o :: columns) ('-' :: ' ' :: text) (.blockEntry :: read) where
  begins := fun t => begins_cons (by decide) (by decide) (by decide) _
  printable := (hvalue.printable.cons (by decide)).cons (by decide)
  reaches := by
    rintro x k m hm hk rfl hx tokens
    obtain ⟨rest, l, c, i⟩ := x
    obtain rfl : rest = '-' :: ' ' :: (text ++ (List.replicate m ' ' ++ k)) := hx
    have hmove : Moves
        (block ⟨'-' :: ' ' :: (text ++ (List.replicate m ' ' ++ k)), l, c, i⟩ tokens (c :: columns)
          true)
        (block ⟨text ++ (List.replicate m ' ' ++ k), l, c + 1 + 1, i + 1 + 1⟩
          (tokens ++ [.blockEntry]) (c :: columns) true) :=
      moves_inside (Nat.le_refl c) ((readToken_hyphen rfl).trans readEntry_block)
        ((settle_spaces (m := 1) (hvalue.begins _) rfl).trans dropStale_block)
        (Nat.lt_succ_of_lt (Nat.lt_succ_self _))
    obtain ⟨z, hz, hend, hread⟩ := hvalue.reaches
      (x := ⟨text ++ (List.replicate m ' ' ++ k), l, c + 1 + 1, i + 1 + 1⟩) hm hk
      (Nat.lt_succ_of_lt (Nat.lt_succ_self c)) rfl (tokens ++ [.blockEntry]) columns true
    refine ⟨z, hz, hend, hmove.reaches.trans ?_⟩
    rw [List.append_assoc] at hread
    exact hread

/-- The state between two brackets. -/
def inBrackets (x : Cursor) (tokens : List Token) (columns : List Nat) (keyAllowed : Bool) : Scan :=
  { block (x.skip 1) (tokens ++ [.flowSequence]) columns true with
    outer := [if keyAllowed then some (candidateAt x tokens columns) else none] }

section Brackets

variable {x : Cursor} {tokens : List Token} {columns : List Nat} {o : Nat} {keyAllowed : Bool}
  {t : List Char}

theorem moves_bracket (ho : o < x.column) (hx : x.rest = '[' :: ']' :: t) (tokens : List Token)
    (columns : List Nat) (keyAllowed : Bool) :
    Moves (block x tokens (o :: columns) keyAllowed)
      (inBrackets x tokens (o :: columns) keyAllowed) := by
  have hzero : x.column ≠ 0 := Nat.ne_of_gt (Nat.zero_lt_of_lt ho)
  have htoken : (block x tokens (o :: columns) keyAllowed).readToken
      = (block x tokens (o :: columns) keyAllowed).openFlow .flowSequence := by
    simp [readToken, block, hx, Cursor.atMarker, hzero]
  have hflow : (block x tokens (o :: columns) keyAllowed).openFlow .flowSequence
      = some (inBrackets x tokens (o :: columns) keyAllowed) := by
    cases keyAllowed with
    | true =>
      have hnoted : (block x tokens (o :: columns) true).noteCandidate
          = some { block x tokens (o :: columns) true with
              candidate := some (candidateAt x tokens (o :: columns)) } := rfl
      rw [openFlow, hnoted]
      rfl
    | false => rfl
  have hrest : (x.skip 1).rest = ']' :: t := by simp [Cursor.skip, hx]
  have hbegins : Begins (x.skip 1).rest := by
    rw [hrest]
    exact begins_cons (by decide) (by decide) (by decide) t
  refine moves_inside (Nat.le_of_lt ho) (htoken.trans hflow) ?_ ?_
  · have hfresh : isStale (x.skip 1) (candidateAt x tokens (o :: columns)) = false := by
      simp [isStale, candidateAt, Cursor.skip]
    rw [settle_here hbegins]
    cases keyAllowed <;> simp [inBrackets, block, dropStale, hfresh]
  · simp [inBrackets, block, Cursor.skip, hx]

theorem moves_brackets {k : List Char} {m : Nat} (ho : o < x.column) (hk : Begins k)
    (hx : x.rest = '[' :: ']' :: '\n' :: (List.replicate m ' ' ++ k)) :
    ∃ y : Cursor, y.rest = k ∧ y.column = m ∧
      Moves (inBrackets x tokens (o :: columns) keyAllowed)
        (block y (tokens ++ [.flowSequence, .flowSequenceEnd]) (o :: columns) true) := by
  have hrest : ((x.skip 1).skip 1).rest = '\n' :: (List.replicate m ' ' ++ k) := by
    simp [Cursor.skip, hx]
  have hbracket : (x.skip 1).rest = ']' :: '\n' :: (List.replicate m ' ' ++ k) := by
    simp [Cursor.skip, hx]
  refine ⟨⟨k, x.line + 1, m, x.index + 1 + 1 + 1 + m⟩, rfl, rfl, ?_, ?_⟩
  · have hinside : (inBrackets x tokens (o :: columns) keyAllowed).unwind
        (some (inBrackets x tokens (o :: columns) keyAllowed).cursor.column)
        = inBrackets x tokens (o :: columns) keyAllowed := rfl
    have htoken : (inBrackets x tokens (o :: columns) keyAllowed).readToken
        = (inBrackets x tokens (o :: columns) keyAllowed).closeFlow .flowSequenceEnd := by
      simp [readToken, inBrackets, block, hbracket, Cursor.atMarker]
    have hclose : (inBrackets x tokens (o :: columns) keyAllowed).closeFlow .flowSequenceEnd
        = some { block ((x.skip 1).skip 1) (tokens ++ [.flowSequence, .flowSequenceEnd])
              (o :: columns) false with
            candidate := if keyAllowed then some (candidateAt x tokens (o :: columns)) else none } := by
      simp [closeFlow, inBrackets, block, dropCandidate, emit]
    rw [hinside, htoken, hclose, Option.bind_some, settle_break rfl hk hrest]
    cases keyAllowed with
    | true =>
      exact dropStale_line (candidateAt_needed (Nat.ne_of_lt ho)) (Nat.lt_succ_self x.line)
    | false => rfl
  · have hlength : k.length < (x.skip 1).rest.length := by
      rw [hbracket, List.length_cons, List.length_cons, List.length_append]
      omega
    exact hlength

end Brackets

/-- An empty sequence in brackets. -/
theorem reads_brackets (o : Nat) : Reads o "[]\n".toList [.flowSequence, .flowSequenceEnd] where
  begins := fun t => begins_cons (by decide) (by decide) (by decide) _
  printable := printable_of_all (by decide)
  reaches := by
    intro x k m hm hk ho hx tokens columns keyAllowed
    have hx : x.rest = '[' :: ']' :: '\n' :: (List.replicate m ' ' ++ k) := hx
    have hopen := moves_bracket ho hx tokens columns keyAllowed
    obtain ⟨y, hy, hend, hclose⟩ := moves_brackets ho hk hx
    exact ⟨y, hy, hend, hopen.reaches.trans hclose.reaches⟩

/-- Lines under each other in a column. -/
def under (o : Nat) (lines : List (List Char × List Token)) : List Char :=
  lines.flatMap fun line => List.replicate o ' ' ++ line.1

theorem printable_under {o : Nat} {columns : List Nat} {lines : List (List Char × List Token)}
    (h : ∀ line ∈ lines, ReadsLine o columns columns line.1 line.2) : Printable (under o lines) := by
  intro c hc
  obtain ⟨line, hline, hc⟩ := List.mem_flatMap.1 hc
  exact (printable_spaces o).append (h line hline).printable c hc

/-- **Lines are read one after the other.** -/
theorem exists_reaches_lines {o m : Nat} {columns columns' : List Nat}
    {first : List Char × List Token} {others : List (List Char × List Token)} {k : List Char}
    (hfirst : ReadsLine o columns columns' first.1 first.2)
    (hothers : ∀ line ∈ others, ReadsLine o columns' columns' line.1 line.2) (hm : m ≤ o)
    (hk : Begins k) {x : Cursor} (hcolumn : x.column = o)
    (hx : x.rest = first.1 ++ (under o others ++ (List.replicate m ' ' ++ k)))
    (tokens : List Token) :
    ∃ y : Cursor, y.rest = k ∧ y.column = m ∧
      Reaches (block x tokens columns true)
        (block y (tokens ++ (first :: others).flatMap Prod.snd) columns' true) := by
  induction others generalizing first columns x tokens with
  | nil =>
    obtain ⟨y, hy, hend, hread⟩ := hfirst.reaches hm hk hcolumn hx tokens
    refine ⟨y, hy, hend, ?_⟩
    simpa using hread
  | cons line others ih =>
    obtain ⟨hline, hothers⟩ := List.forall_mem_cons.1 hothers
    have hsplit : under o (line :: others) ++ (List.replicate m ' ' ++ k)
        = List.replicate o ' ' ++ (line.1 ++ (under o others ++ (List.replicate m ' ' ++ k))) := by
      simp [under]
    rw [hsplit] at hx
    obtain ⟨y, hy, hend, hread⟩ :=
      hfirst.reaches (Nat.le_refl o) (hline.begins _) hcolumn hx tokens
    obtain ⟨z, hz, hend', hmore⟩ := ih hline hothers hend hy (tokens ++ first.2)
    refine ⟨z, hz, hend', hread.trans ?_⟩
    rw [List.append_assoc] at hmore
    exact hmore

/-! ### The end of a text -/

section End

variable {x : Cursor} {tokens : List Token} {columns : List Nat} {keyAllowed : Bool}

theorem closeBlocks_none (columns : List Nat) (tokens : List Token) :
    closeBlocks none columns tokens = ([], tokens ++ List.replicate columns.length .blockEnd) := by
  induction columns generalizing tokens with
  | nil => simp [closeBlocks]
  | cons o columns ih => simp [closeBlocks, ih, List.replicate_succ]

/-- Collections that are closed already do not matter when all are closed. -/
theorem closeBlocks_closeBlocks (column : Option Nat) (columns : List Nat) (tokens : List Token) :
    closeBlocks none (closeBlocks column columns tokens).1 (closeBlocks column columns tokens).2
      = closeBlocks none columns tokens := by
  induction columns generalizing tokens with
  | nil => rfl
  | cons o columns ih =>
    rw [closeBlocks]
    split
    · rw [ih]
      rfl
    · rfl

theorem finish_block : (block x tokens columns keyAllowed).finish
    = some (tokens ++ List.replicate columns.length .blockEnd ++ [.streamEnd]) := by
  simp [finish, unwind, block, inFlow, closeBlocks_none, dropCandidate]

/-- Three dots alone in their line end the document. -/
theorem exists_moves_documentEnd (hcolumn : x.column = 0) (hx : x.rest = "...\n".toList) :
    ∃ y : Cursor, y.rest = [] ∧
      Moves (block x tokens columns keyAllowed)
        (block y (tokens ++ List.replicate columns.length .blockEnd ++ [.documentEnd]) [] true) := by
  have hx : x.rest = ['.', '.', '.', '\n'] := hx
  have hrest : (x.skip 3).rest = ['\n'] := by simp [Cursor.skip, hx]
  let closed := closeBlocks (some x.column) columns tokens
  have hunwind : (block x tokens columns keyAllowed).unwind
      (some (block x tokens columns keyAllowed).cursor.column)
      = block x closed.2 closed.1 keyAllowed := rfl
  have hends : (block x closed.2 closed.1 keyAllowed).endBlocks
      = some (block x (tokens ++ List.replicate columns.length .blockEnd) [] false) := by
    have hall := (closeBlocks_closeBlocks (some x.column) columns tokens).trans
      (closeBlocks_none columns tokens)
    simp [endBlocks, unwind, block, inFlow, dropCandidate, closed, hall]
  have htoken : (block x closed.2 closed.1 keyAllowed).readToken
      = some (block (x.skip 3) (tokens ++ List.replicate columns.length .blockEnd ++ [.documentEnd])
          [] false) := by
    have hdash : x.atMarker '-' = false := Cursor.atMarker_of_ne hx (by decide)
    have hdot : x.atMarker '.' = true := by
      simp [Cursor.atMarker, hcolumn, hx, List.isPrefixOf, atGap, isBreak]
    have hcursor : (block x closed.2 closed.1 keyAllowed).cursor = x := rfl
    simp [readToken, hcursor, hx, hdash, hdot, hends]
    simp [block, emit]
  refine ⟨⟨[], (x.skip 3).line + 1, 0, (x.skip 3).index + 1 + 0⟩, rfl, ?_, ?_⟩
  · rw [hunwind, htoken, Option.bind_some]
    exact (settle_break (m := 0) rfl begins_nil hrest).trans dropStale_block
  · have hlength : 0 < x.rest.length := by
      rw [hx]
      exact Nat.succ_pos 3
    exact hlength

end End

/-- **The tokens of a text are those that its steps reach.** -/
theorem tokens_of_reaches {cs : List Char} (hcs : Begins cs) (hchars : Printable cs)
    {t : Scan} (h : Reaches (block { rest := cs } [] [] true) t) (hend : t.cursor.rest = [])
    {ts : List Token} (hts : t.finish = some ts) : Yaml.tokens cs = some ts := by
  have hmark : dropByteOrderMark cs = cs := by
    cases cs with
    | nil => rfl
    | cons c cs =>
      have hbom : c ≠ '\ufeff' := (hcs c rfl).2.2
      unfold dropByteOrderMark
      split
      · next heq => exact absurd (List.cons.inj heq).1 hbom
      · rfl
  have hall : cs.all isTextChar = true := List.all_eq_true.2 hchars
  have hfirst : settle (block { rest := cs } [] [] true) = some (block { rest := cs } [] [] true) :=
    (settle_here hcs).trans dropStale_block
  simp only [Yaml.tokens, hmark, hall, if_true]
  exact run_of_reaches h hfirst hend hts (Nat.lt_succ_self cs.length)

end GuestPorts.Yaml.Scan
