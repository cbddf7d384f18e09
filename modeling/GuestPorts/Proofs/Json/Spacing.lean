/-
  GuestPorts/Proofs/Json/Spacing.lean
  ===================================
  **Blanks between the tokens of a text do not matter** (`read_spaced`): a document is read from
  any text that consists of its tokens, however many blanks stand in front of each of them and
  behind the last.

  The induction is on the document.  The reader's fuel is enough because each list and each
  object has a character in front of everything that is in it; blanks in front of a value do not
  matter to the reader (`value_skipSpace`), and those in front of any other token are skipped
  before it is looked at.
-/
import GuestPorts.Proofs.Json.Scalars
import Mathlib.Data.List.DropRight

namespace GuestPorts.Json

open GuestPorts.Text (isDigit)

mutual
/-- A document that can be written: it is whole, its strings have a text and its numerals
    are JSON's. -/
def Doc.Printable : Doc → Prop
  | .null | .bool _ | .string _ => True
  | .number n => n.Spelled
  | .array items => items.Printable
  | .object members => members.Printable
  | .unpaired | .broken => False

def Items.Printable : Items → Prop
  | .closed => True
  | .cut => False
  | .cons head tail => head.Printable ∧ tail.Printable

def Members.Printable : Members → Prop
  | .closed => True
  | .cut | .nameless _ => False
  | .cons _ value tail => value.Printable ∧ tail.Printable
end

/-! ### Blanks -/

theorem ne_of_isDigit {c d : Char} (hc : isDigit c = true) (hd : isDigit d = false) : c ≠ d := by
  rintro rfl
  rw [hc] at hd
  cases hd

theorem isSpace_of_isDigit {c : Char} (h : isDigit c = true) : isSpace c = false := by
  have hne : ∀ d, isDigit d = false → c ≠ d := fun d => ne_of_isDigit h
  simp [isSpace, hne ' ' rfl, hne '\n' rfl, hne '\t' rfl, hne '\r' rfl]

theorem skipSpace_cons {c : Char} (h : isSpace c = false) (r : List Char) :
    skipSpace (c :: r) = c :: r := List.dropWhile_cons_of_neg (by simp [h])

theorem skipSpace_skipSpace (cs : List Char) : skipSpace (skipSpace cs) = skipSpace cs :=
  List.dropWhile_idempotent isSpace cs

theorem skipSpace_append {gap : List Char} (h : ∀ c ∈ gap, isSpace c = true) (cs : List Char) :
    skipSpace (gap ++ cs) = skipSpace cs := List.dropWhile_append_of_pos h

section Readers

attribute [local simp] value items members

theorem value_skipSpace (fuel : Nat) (cs : List Char) :
    value fuel (skipSpace cs) = value fuel cs := by
  cases fuel with
  | zero => rfl
  | succ fuel => simp [skipSpace_skipSpace]

theorem items_skipSpace (fuel : Nat) (cs : List Char) :
    items fuel (skipSpace cs) = items fuel cs := by
  cases fuel with
  | zero => rfl
  | succ fuel => simp [value_skipSpace]

theorem members_skipSpace (fuel : Nat) (cs : List Char) :
    members fuel (skipSpace cs) = members fuel cs := by
  cases fuel with
  | zero => rfl
  | succ fuel => simp [value_skipSpace]

end Readers

theorem value_append {gap : List Char} (h : ∀ c ∈ gap, isSpace c = true) (fuel : Nat)
    (cs : List Char) : value fuel (gap ++ cs) = value fuel cs := by
  rw [← value_skipSpace, skipSpace_append h, value_skipSpace]

/-! ### One step of the reader -/

section Steps

variable {fuel : Nat} {cs rest after : List Char} {d : Doc} {name : List Char}

theorem value_scalar {c : Char} (hc : isSpace c = false) (hlist : c ≠ '[') (hobject : c ≠ '\x7b')
    (r : List Char) : value (fuel + 1) (c :: r) = scalar (c :: r) := by
  simp only [value, skipSpace_cons hc]
  split
  · next heq => exact absurd (List.cons.inj heq).1 hlist
  · next heq => exact absurd (List.cons.inj heq).1 hobject
  · rfl

theorem value_array (h : (skipSpace cs).head? ≠ some ']') :
    value (fuel + 1) ('[' :: cs) = (.array (items fuel cs).1, (items fuel cs).2) := by
  have hopen : skipSpace ('[' :: cs) = '[' :: cs := skipSpace_cons (by decide) cs
  simp only [value, hopen]
  split
  · next heq => exact absurd (by rw [heq]; rfl) h
  · rw [items_skipSpace]

theorem value_object (h : (skipSpace cs).head? ≠ some '\x7d') :
    value (fuel + 1) ('\x7b' :: cs) = (.object (members fuel cs).1, (members fuel cs).2) := by
  have hopen : skipSpace ('\x7b' :: cs) = '\x7b' :: cs := skipSpace_cons (by decide) cs
  simp only [value, hopen]
  split
  · next heq => exact absurd (by rw [heq]; rfl) h
  · rw [members_skipSpace]

theorem value_closed_array (h : skipSpace cs = ']' :: rest) :
    value (fuel + 1) ('[' :: cs) = (.array .closed, some rest) := by
  have hopen : skipSpace ('[' :: cs) = '[' :: cs := skipSpace_cons (by decide) cs
  simp only [value, hopen, h]

theorem value_closed_object (h : skipSpace cs = '\x7d' :: rest) :
    value (fuel + 1) ('\x7b' :: cs) = (.object .closed, some rest) := by
  have hopen : skipSpace ('\x7b' :: cs) = '\x7b' :: cs := skipSpace_cons (by decide) cs
  simp only [value, hopen, h]

theorem items_last (hvalue : value fuel cs = (d, some rest)) (hrest : skipSpace rest = ']' :: after) :
    items (fuel + 1) cs = (.cons d .closed, some after) := by
  simp only [items, hvalue, hrest]

theorem items_more {behind : List Char} (hvalue : value fuel cs = (d, some behind))
    (hcomma : skipSpace behind = ',' :: rest) (hrest : (skipSpace rest).head? ≠ some ']') :
    items (fuel + 1) cs = (.cons d (items fuel rest).1, (items fuel rest).2) := by
  simp only [items, hvalue, hcomma, if_neg hrest]

section Members

variable {inside : List Char} (hname : value fuel cs = (.string name, some inside))
  (hcolon : skipSpace inside = ':' :: rest) {behind : List Char}
  (hvalue : value fuel rest = (d, some behind))

include hname hcolon hvalue

theorem members_last (hclose : skipSpace behind = '\x7d' :: after) :
    members (fuel + 1) cs = (.cons name d .closed, some after) := by
  simp only [members, hname, hcolon, hvalue, hclose]

theorem members_more (hcomma : skipSpace behind = ',' :: after) :
    members (fuel + 1) cs = (.cons name d (members fuel after).1, (members fuel after).2) := by
  simp only [members, hname, hcolon, hvalue, hcomma]

end Members

end Steps

/-! ### Tokens with blanks in front of them -/

mutual
/-- The tokens of a document that can be written. -/
def Doc.tokens : Doc → List (List Char)
  | .null => ["null".toList]
  | .bool true => ["true".toList]
  | .bool false => ["false".toList]
  | .number n => [n.toChars]
  | .string cs => [quote cs]
  | .unpaired | .broken => []
  | .array items => ['['] :: (items.tokens ++ [[']']])
  | .object members => ['\x7b'] :: (members.tokens ++ [['\x7d']])

def Items.tokens : Items → List (List Char)
  | .closed | .cut => []
  | .cons head .closed => head.tokens
  | .cons head tail => head.tokens ++ [','] :: tail.tokens

def Members.tokens : Members → List (List Char)
  | .closed | .cut | .nameless _ => []
  | .cons name value .closed => quote name :: [':'] :: value.tokens
  | .cons name value tail => quote name :: [':'] :: (value.tokens ++ [','] :: tail.tokens)
end

/-- The text consists of these tokens, each with any blanks in front of it. -/
inductive Spaced : List (List Char) → List Char → Prop
  | nil : Spaced [] []
  | cons {token gap text : List Char} {tokens : List (List Char)}
    (hgap : ∀ c ∈ gap, isSpace c = true) (h : Spaced tokens text) :
    Spaced (token :: tokens) (gap ++ (token ++ text))

namespace Spaced

variable {before behind : List (List Char)} {text : List Char}

theorem append {text' : List Char} (h : Spaced before text) (h' : Spaced behind text') :
    Spaced (before ++ behind) (text ++ text') := by
  induction h with
  | nil => exact h'
  | cons hgap _ ih =>
    rw [List.append_assoc, List.append_assoc]
    exact .cons hgap ih

theorem exists_append (h : Spaced (before ++ behind) text) :
    ∃ front back, Spaced before front ∧ Spaced behind back ∧ text = front ++ back := by
  induction before generalizing text with
  | nil => exact ⟨[], text, .nil, h, rfl⟩
  | cons token rest ih =>
    cases h with
    | cons hgap hrest =>
      obtain ⟨front, back, hfront, hback, rfl⟩ := ih hrest
      refine ⟨_, back, .cons hgap hfront, hback, ?_⟩
      simp only [List.append_assoc]

/-- The same blanks in front of every token. -/
theorem flatMap {gap : List Char} (hgap : ∀ c ∈ gap, isSpace c = true)
    (tokens : List (List Char)) : Spaced tokens (tokens.flatMap (gap ++ ·)) := by
  induction tokens with
  | nil => exact .nil
  | cons token rest ih =>
    rw [List.flatMap_cons, List.append_assoc]
    exact .cons hgap ih

theorem singleton {token : List Char} (h : Spaced [token] text) :
    ∃ gap, (∀ c ∈ gap, isSpace c = true) ∧ text = gap ++ token := by
  cases h with
  | cons hgap hrest =>
    cases hrest
    exact ⟨_, hgap, by rw [List.append_nil]⟩

/-- The reader is at the first token when it has skipped the blanks. -/
theorem skipSpace_cons {c : Char} (hc : isSpace c = false) (h : Spaced ([c] :: behind) text)
    (rest : List Char) :
    ∃ text', Spaced behind text' ∧ text'.length < text.length ∧
      skipSpace (text ++ rest) = c :: (text' ++ rest) := by
  cases h with
  | @cons _ gap text' _ hgap hrest =>
    refine ⟨text', hrest, ?_, ?_⟩
    · simp only [List.length_append, List.length_singleton]
      omega
    · rw [List.append_assoc, skipSpace_append hgap]
      exact Json.skipSpace_cons hc _

theorem head?_skipSpace {c : Char} {r : List Char} (hc : isSpace c = false)
    (h : Spaced ((c :: r) :: behind) text) (rest : List Char) :
    (skipSpace (text ++ rest)).head? = some c := by
  cases h with
  | cons hgap _ =>
    rw [List.append_assoc, skipSpace_append hgap, List.append_assoc, List.cons_append,
      Json.skipSpace_cons hc, List.head?_cons]

theorem length_pos {c : Char} {r : List Char} (h : Spaced ((c :: r) :: behind) text) :
    0 < text.length := by
  cases h with
  | cons =>
    simp only [List.length_append, List.length_cons]
    omega

end Spaced

/-! ### Reading tokens -/

theorem ends_of_skipSpace {rest : List Char} (h : Ends (skipSpace rest)) : Ends rest := by
  cases rest with
  | nil => exact h
  | cons c r =>
    by_cases hc : isSpace c = true
    · intro d hd
      cases hd
      simp only [isSpace, Bool.or_eq_true, decide_eq_true_eq] at hc
      rcases hc with ((rfl | rfl) | rfl) | rfl <;> decide
    · rwa [skipSpace_cons (Bool.not_eq_true _ ▸ hc)] at h

/-- A token that stands alone ends the numeral before it. -/
theorem ends_of_skipSpace_eq {c : Char} {rest r : List Char} (h : skipSpace rest = c :: r)
    (hc : c = ',' ∨ c = ']' ∨ c = '\x7d') : Ends rest := by
  apply ends_of_skipSpace
  intro d hd
  rw [h] at hd
  cases hd
  rcases hc with rfl | rfl | rfl <;> decide

theorem Numeral.Spelled.exists_cons {n : Numeral} (h : n.Spelled) :
    ∃ c r, n.toChars = c :: r ∧ (c = '-' ∨ isDigit c = true) := by
  obtain ⟨c, r, hwhole⟩ := List.exists_cons_of_ne_nil h.whole.1
  have hc : isDigit c = true := h.whole.2 c (hwhole ▸ List.mem_cons_self)
  rw [n.toChars_eq, hwhole]
  cases n.negative with
  | true => exact ⟨'-', _, rfl, .inl rfl⟩
  | false => exact ⟨c, _, rfl, .inr hc⟩

/-- A document that can be written begins with a character that starts a value. -/
theorem Doc.Printable.exists_tokens {d : Doc} (h : d.Printable) :
    ∃ c r more, d.tokens = (c :: r) :: more ∧ isSpace c = false ∧ c ≠ ']' := by
  match d with
  | .null => exact ⟨_, _, _, rfl, by decide⟩
  | .bool true => exact ⟨_, _, _, rfl, by decide⟩
  | .bool false => exact ⟨_, _, _, rfl, by decide⟩
  | .string cs => exact ⟨'"', _, _, rfl, by decide⟩
  | .array is => exact ⟨'[', _, _, rfl, by decide⟩
  | .object ms => exact ⟨'\x7b', _, _, rfl, by decide⟩
  | .number n =>
    obtain ⟨c, r, hn, hc⟩ := Numeral.Spelled.exists_cons (n := n) h
    refine ⟨c, r, [], by rw [Doc.tokens, hn], ?_⟩
    rcases hc with rfl | hc
    · decide
    · exact ⟨isSpace_of_isDigit hc, ne_of_isDigit hc rfl⟩

theorem Items.Printable.exists_tokens {is : Items} (h : is.Printable) (hne : is ≠ .closed) :
    ∃ c r more, is.tokens = (c :: r) :: more ∧ isSpace c = false ∧ c ≠ ']' := by
  cases is with
  | closed => exact absurd rfl hne
  | cut => exact h.elim
  | cons head tail =>
    obtain ⟨c, r, more, htokens, hc⟩ := h.1.exists_tokens
    cases tail with
    | closed => exact ⟨c, r, more, htokens, hc⟩
    | cut => exact h.2.elim
    | cons => exact ⟨c, r, _, by rw [Items.tokens, htokens, List.cons_append]; exact nofun, hc⟩

theorem Members.Printable.exists_tokens {ms : Members} (h : ms.Printable) (hne : ms ≠ .closed) :
    ∃ r more, ms.tokens = ('"' :: r) :: more := by
  match ms with
  | .closed => exact absurd rfl hne
  | .cons _ _ .closed => exact ⟨_, _, rfl⟩
  | .cons _ _ (.cons ..) => exact ⟨_, _, rfl⟩

theorem Items.tokens_cons (head : Doc) {tail : Items} (h : tail ≠ .closed) :
    (Items.cons head tail).tokens = head.tokens ++ [','] :: tail.tokens := by
  rw [Items.tokens]
  exact h

theorem Members.tokens_cons (name : List Char) (v : Doc) {tail : Members} (h : tail ≠ .closed) :
    (Members.cons name v tail).tokens
      = quote name :: [':'] :: (v.tokens ++ [','] :: tail.tokens) := by
  rw [Members.tokens]
  exact h

theorem value_quote {fuel : Nat} (h : 0 < fuel) {gap : List Char}
    (hgap : ∀ c ∈ gap, isSpace c = true) (cs rest : List Char) :
    value fuel (gap ++ (quote cs ++ rest)) = (.string cs, some rest) := by
  obtain ⟨fuel, rfl⟩ := Nat.exists_eq_succ_of_ne_zero (by omega : fuel ≠ 0)
  rw [value_append hgap]
  refine Eq.trans ?_ (scalar_quote cs rest)
  exact value_scalar (by decide) (by decide) (by decide) _

/-- A word in front of which any blanks stand. -/
theorem value_token {fuel : Nat} {token gap rest : List Char} {d : Doc} {c : Char} {r : List Char}
    (hgap : ∀ c ∈ gap, isSpace c = true) (htoken : token = c :: r) (hc : isSpace c = false)
    (hlist : c ≠ '[') (hobject : c ≠ '\x7b')
    (hread : scalar (token ++ rest) = (d, some rest)) :
    value (fuel + 1) (gap ++ token ++ rest) = (d, some rest) := by
  subst htoken
  rw [List.append_assoc, value_append hgap]
  exact (value_scalar hc hlist hobject _).trans hread

mutual
/-- **A value is read from its tokens.** -/
theorem value_spaced : ∀ (d : Doc) (fuel : Nat) (text rest : List Char), d.Printable →
    Spaced d.tokens text → text.length ≤ fuel → Ends rest →
    value fuel (text ++ rest) = (d, some rest) := by
  intro d fuel text rest h htext hfuel hrest
  obtain ⟨c, r, more, htokens, -, -⟩ := h.exists_tokens
  have hpos : 0 < text.length := (htokens ▸ htext).length_pos
  obtain ⟨fuel, rfl⟩ := Nat.exists_eq_succ_of_ne_zero (by omega : fuel ≠ 0)
  clear htokens hpos
  match d with
  | .null =>
    obtain ⟨gap, hgap, rfl⟩ := htext.singleton
    exact value_token hgap rfl (by decide) (by decide) (by decide)
      (by simp [scalar, afterWord, orBroken])
  | .bool true =>
    obtain ⟨gap, hgap, rfl⟩ := htext.singleton
    exact value_token hgap rfl (by decide) (by decide) (by decide)
      (by simp [scalar, afterWord, orBroken])
  | .bool false =>
    obtain ⟨gap, hgap, rfl⟩ := htext.singleton
    exact value_token hgap rfl (by decide) (by decide) (by decide)
      (by simp [scalar, afterWord, orBroken])
  | .string cs =>
    obtain ⟨gap, hgap, rfl⟩ := htext.singleton
    rw [List.append_assoc]
    exact value_quote (Nat.succ_pos fuel) hgap cs rest
  | .number n =>
    obtain ⟨gap, hgap, rfl⟩ := htext.singleton
    have hread := scalar_number (n := n) h hrest
    obtain ⟨c, r, hn, rfl | hc⟩ := Numeral.Spelled.exists_cons (n := n) h
    · exact value_token hgap hn (by decide) (by decide) (by decide) hread
    · exact value_token hgap hn (isSpace_of_isDigit hc) (ne_of_isDigit hc rfl)
        (ne_of_isDigit hc rfl) hread
  | .array is =>
    have hp : is.Printable := h
    rw [Doc.tokens] at htext
    cases htext with
    | @cons _ gap inside _ hgap hinside =>
      obtain ⟨front, back, hfront, hback, rfl⟩ := hinside.exists_append
      obtain ⟨_, hnil, hlength, hclose⟩ := hback.skipSpace_cons (by decide) rest
      cases hnil
      simp only [List.length_append, List.length_singleton] at hfuel
      rw [List.append_assoc, value_append hgap]
      by_cases hclosed : is = .closed
      · subst hclosed
        cases hfront
        exact value_closed_array hclose
      · obtain ⟨c, r, more, htokens, hc, hne⟩ := hp.exists_tokens hclosed
        have hopen := (htokens ▸ hfront).head?_skipSpace hc (back ++ rest)
        have hread := items_spaced is fuel front (back ++ rest) rest hp hclosed hfront (by omega)
          hclose
        rw [List.append_assoc, List.singleton_append, List.append_assoc, value_array, hread]
        rw [hopen]
        simpa using hne
  | .object ms =>
    have hp : ms.Printable := h
    rw [Doc.tokens] at htext
    cases htext with
    | @cons _ gap inside _ hgap hinside =>
      obtain ⟨front, back, hfront, hback, rfl⟩ := hinside.exists_append
      obtain ⟨_, hnil, hlength, hclose⟩ := hback.skipSpace_cons (by decide) rest
      cases hnil
      simp only [List.length_append, List.length_singleton] at hfuel
      rw [List.append_assoc, value_append hgap]
      by_cases hclosed : ms = .closed
      · subst hclosed
        cases hfront
        exact value_closed_object hclose
      · obtain ⟨r, more, htokens⟩ := hp.exists_tokens hclosed
        have hopen := (htokens ▸ hfront).head?_skipSpace (by decide) (back ++ rest)
        have hread := members_spaced ms fuel front (back ++ rest) rest hp hclosed hfront
          (by omega) hclose
        rw [List.append_assoc, List.singleton_append, List.append_assoc, value_object, hread]
        rw [hopen]
        decide

theorem items_spaced : ∀ (is : Items) (fuel : Nat) (text rest after : List Char), is.Printable →
    is ≠ .closed → Spaced is.tokens text → text.length < fuel → skipSpace rest = ']' :: after →
    items fuel (text ++ rest) = (is, some after) := by
  intro is fuel text rest after h hne htext hfuel hclose
  obtain ⟨fuel, rfl⟩ := Nat.exists_eq_succ_of_ne_zero (by omega : fuel ≠ 0)
  match is with
  | .closed => exact absurd rfl hne
  | .cons head tail =>
    by_cases hclosed : tail = .closed
    · subst hclosed
      have hvalue := value_spaced head fuel text rest h.1 htext (by omega)
        (ends_of_skipSpace_eq hclose (.inr (.inl rfl)))
      exact items_last hvalue hclose
    · rw [Items.tokens_cons head hclosed] at htext
      obtain ⟨front, back, hfront, hback, rfl⟩ := htext.exists_append
      obtain ⟨back', hback', hlength, hcomma⟩ := hback.skipSpace_cons (by decide) rest
      rw [List.length_append] at hfuel
      have hvalue := value_spaced head fuel front (back ++ rest) h.1 hfront (by omega)
        (ends_of_skipSpace_eq hcomma (.inl rfl))
      have htail := items_spaced tail fuel back' rest after h.2 hclosed hback' (by omega) hclose
      obtain ⟨c, r, more, htokens, hc, hne⟩ := Items.Printable.exists_tokens h.2 hclosed
      have hopen := (htokens ▸ hback').head?_skipSpace hc rest
      rw [List.append_assoc, items_more hvalue hcomma, htail]
      rw [hopen]
      simpa using hne

theorem members_spaced : ∀ (ms : Members) (fuel : Nat) (text rest after : List Char),
    ms.Printable → ms ≠ .closed → Spaced ms.tokens text → text.length < fuel →
    skipSpace rest = '\x7d' :: after → members fuel (text ++ rest) = (ms, some after) := by
  intro ms fuel text rest after h hne htext hfuel hclose
  obtain ⟨fuel, rfl⟩ := Nat.exists_eq_succ_of_ne_zero (by omega : fuel ≠ 0)
  match ms with
  | .closed => exact absurd rfl hne
  | .cons name v tail =>
    have hquote : 0 < (quote name).length := Nat.succ_pos _
    by_cases hclosed : tail = .closed
    · subst hclosed
      rw [Members.tokens] at htext
      cases htext with
      | @cons _ gap inside _ hgap hinside =>
        obtain ⟨inner, hinner, hlength, hcolon⟩ := hinside.skipSpace_cons (by decide) rest
        simp only [List.length_append] at hfuel
        have hname := value_quote (by omega : 0 < fuel) hgap name (inside ++ rest)
        have hvalue := value_spaced v fuel inner rest h.1 hinner (by omega)
          (ends_of_skipSpace_eq hclose (.inr (.inr rfl)))
        rw [List.append_assoc, List.append_assoc]
        exact members_last hname hcolon hvalue hclose
    · rw [Members.tokens_cons name v hclosed] at htext
      cases htext with
      | @cons _ gap inside _ hgap hinside =>
        obtain ⟨inner, hinner, hlength, hcolon⟩ := hinside.skipSpace_cons (by decide) rest
        obtain ⟨front, back, hfront, hback, rfl⟩ := hinner.exists_append
        obtain ⟨back', hback', hlength', hcomma⟩ := hback.skipSpace_cons (by decide) rest
        simp only [List.length_append] at hfuel hlength
        have hname := value_quote (by omega : 0 < fuel) hgap name (inside ++ rest)
        have hvalue := value_spaced v fuel front (back ++ rest) h.1 hfront (by omega)
          (ends_of_skipSpace_eq hcomma (.inl rfl))
        have htail := members_spaced tail fuel back' rest after h.2 hclosed hback' (by omega)
          hclose
        rw [List.append_assoc] at hcolon
        rw [List.append_assoc, List.append_assoc, members_more hname hcolon hvalue hcomma, htail]
end

/-- **A document is read from its tokens**, any blanks between them and behind them allowed. -/
theorem read_spaced {d : Doc} (h : d.Printable) {text behind : List Char}
    (htext : Spaced d.tokens text) (hblank : skipSpace behind = []) :
    read (text ++ behind) = (d, true) := by
  have hends : Ends behind := ends_of_skipSpace (by rw [hblank]; exact nofun)
  have hvalue := value_spaced d ((text ++ behind).length + 1) text behind h htext
    (by rw [List.length_append]; omega) hends
  simp only [read, hvalue, hblank, List.isEmpty_nil]

end GuestPorts.Json
