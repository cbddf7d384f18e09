/-
  GuestPorts/Text/Basic.lean
  ==========================
  **Blanks, pieces and numerals** of a text.

  A character is *blank* when it has the Unicode property `White_Space`; trimming removes
  blanks from both ends and nothing else.  `splitAt` cuts at every occurrence of a character
  and keeps empty pieces, so joining the pieces gives the text back (`join_splitAt`).  A
  numeral is written without leading zeros and read with any number of them
  (`valueOf_digits`).
-/

namespace GuestPorts.Text

/-! ### Blanks -/

/-- The property `White_Space`: the ASCII blanks, two of Latin-1, and the spaces
    and separators of the general punctuation and CJK blocks. -/
def isBlank (c : Char) : Bool :=
  let n := c.toNat
  (9 ≤ n && n ≤ 13) || n == 0x20 || n == 0x85 || n == 0xA0 || n == 0x1680
    || (0x2000 ≤ n && n ≤ 0x200A) || n == 0x2028 || n == 0x2029 || n == 0x202F
    || n == 0x205F || n == 0x3000

/-- The general category `Cc`: the two blocks of thirty-two controls and DEL. -/
def isControl (c : Char) : Bool :=
  let n := c.toNat
  n ≤ 0x1F || (0x7F ≤ n && n ≤ 0x9F)

def trimStart (cs : List Char) : List Char := cs.dropWhile isBlank

def trimEnd (cs : List Char) : List Char := (cs.reverse.dropWhile isBlank).reverse

def trim (cs : List Char) : List Char := trimEnd (trimStart cs)

def isBlankText (cs : List Char) : Bool := cs.all isBlank

def trimmed (s : String) : String := String.ofList (trim s.toList)

@[simp] theorem toList_trimmed (s : String) : (trimmed s).toList = trim s.toList := by
  simp [trimmed]

theorem exists_blank_append_trimStart (cs : List Char) :
    ∃ front, front.all isBlank = true ∧ cs = front ++ trimStart cs := by
  refine ⟨cs.takeWhile isBlank, ?_, ?_⟩
  · exact List.all_eq_true.2 fun c hc => by
      induction cs with
      | nil => simp at hc
      | cons d r ih =>
        simp only [List.takeWhile_cons] at hc
        split at hc
        · rcases List.mem_cons.1 hc with rfl | h
          · assumption
          · exact ih h
        · simp at hc
  · exact (List.takeWhile_append_dropWhile (p := isBlank) (l := cs)).symm

/-! ### Pieces -/

/-- The pieces of a text between the occurrences of `sep`, empty ones included. -/
def splitAt (sep : Char) : List Char → List (List Char)
  | [] => [[]]
  | c :: r =>
    if c = sep then [] :: splitAt sep r
    else
      match splitAt sep r with
      | [] => [[c]]
      | piece :: pieces => (c :: piece) :: pieces

def join (sep : List Char) : List (List Char) → List Char
  | [] => []
  | [piece] => piece
  | piece :: next :: rest => piece ++ sep ++ join sep (next :: rest)

def joined (sep : String) (pieces : List String) : String :=
  String.ofList (join sep.toList (pieces.map String.toList))

/-- The text before and after the first occurrence of `sep`, if there is one. -/
def cutAt (sep : Char) : List Char → Option (List Char × List Char)
  | [] => none
  | c :: r => if c = sep then some ([], r) else (cutAt sep r).map fun p => (c :: p.1, p.2)

/-- What follows `front` in a text that starts with it. -/
def afterFront : List Char → List Char → Option (List Char)
  | [], cs => some cs
  | _ :: _, [] => none
  | f :: fs, c :: cs => if f = c then afterFront fs cs else none

def hasPart (part : List Char) : List Char → Bool
  | [] => part.isEmpty
  | c :: r => part.isPrefixOf (c :: r) || hasPart part r

def lines (cs : List Char) : List (List Char) := splitAt '\n' cs

def unlines (ls : List (List Char)) : List Char := join ['\n'] ls

theorem splitAt_ne_nil (sep : Char) (cs : List Char) : splitAt sep cs ≠ [] := by
  cases cs with
  | nil => simp [splitAt]
  | cons c r =>
    simp only [splitAt]
    split
    · simp
    · split <;> simp

theorem join_splitAt (sep : Char) (cs : List Char) : join [sep] (splitAt sep cs) = cs := by
  induction cs with
  | nil => rfl
  | cons c r ih =>
    simp only [splitAt]
    split
    · next h =>
      subst h
      cases hs : splitAt c r with
      | nil => exact absurd hs (splitAt_ne_nil c r)
      | cons piece pieces => simp [join, ← hs, ih]
    · cases hs : splitAt sep r with
      | nil => exact absurd hs (splitAt_ne_nil sep r)
      | cons piece pieces =>
        rw [hs] at ih
        cases pieces with
        | nil => simpa [join] using ih
        | cons next rest => simpa [join] using ih

theorem unlines_lines (cs : List Char) : unlines (lines cs) = cs := join_splitAt '\n' cs

theorem afterFront_eq_some_iff {front cs rest : List Char} :
    afterFront front cs = some rest ↔ cs = front ++ rest := by
  induction front generalizing cs with
  | nil => simp [afterFront]
  | cons f fs ih =>
    cases cs with
    | nil => simp [afterFront]
    | cons c cs =>
      by_cases h : f = c
      · simp [afterFront, h, ih]
      · simp [afterFront, h, Ne.symm h]

/-! ### Decimal numerals -/

def isDigit (c : Char) : Bool := '0' ≤ c && c ≤ '9'

def digitValue (c : Char) : Nat := c.toNat - '0'.toNat

def digitChar (n : Nat) : Char :=
  match n with
  | 0 => '0' | 1 => '1' | 2 => '2' | 3 => '3' | 4 => '4'
  | 5 => '5' | 6 => '6' | 7 => '7' | 8 => '8' | _ => '9'

/-- The decimal digits of a number, most significant first, at least one. -/
def digits (n : Nat) : List Char :=
  if n < 10 then [digitChar n] else digits (n / 10) ++ [digitChar (n % 10)]
termination_by n
decreasing_by omega

def valueOf (cs : List Char) : Nat := cs.foldl (fun v c => 10 * v + digitValue c) 0

/-- The number that a text of one or more digits stands for. -/
def readDigits (cs : List Char) : Option Nat :=
  if cs.isEmpty || !cs.all isDigit then none else some (valueOf cs)

/-- A numeral of at least `width` digits, zeros in front. -/
def padded (width n : Nat) : List Char :=
  List.replicate (width - (digits n).length) '0' ++ digits n

def decimal (n : Nat) : String := String.ofList (digits n)

@[simp] theorem toList_decimal (n : Nat) : (decimal n).toList = digits n := by simp [decimal]

theorem digitValue_digitChar {n : Nat} (h : n < 10) : digitValue (digitChar n) = n := by
  match n with
  | 0 | 1 | 2 | 3 | 4 | 5 | 6 | 7 | 8 | 9 => rfl
  | n + 10 => omega

theorem isDigit_digitChar (n : Nat) : isDigit (digitChar n) = true := by
  unfold digitChar
  split <;> rfl

theorem digits_ne_nil (n : Nat) : digits n ≠ [] := by
  unfold digits
  split <;> simp

theorem all_isDigit_digits (n : Nat) : (digits n).all isDigit = true := by
  fun_induction digits n with
  | case1 n h => simp [isDigit_digitChar]
  | case2 n h ih => simp [ih, isDigit_digitChar]

theorem valueOf_digits (n : Nat) : valueOf (digits n) = n := by
  fun_induction digits n with
  | case1 n h => simp [valueOf, digitValue_digitChar h]
  | case2 n h ih =>
    simp only [valueOf, List.foldl_append, List.foldl_cons, List.foldl_nil] at ih ⊢
    rw [ih, digitValue_digitChar (Nat.mod_lt _ (by decide))]
    omega

theorem readDigits_digits (n : Nat) : readDigits (digits n) = some n := by
  simp [readDigits, digits_ne_nil, all_isDigit_digits, valueOf_digits]

end GuestPorts.Text
