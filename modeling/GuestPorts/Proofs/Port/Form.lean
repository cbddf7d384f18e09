/-
  GuestPorts/Proofs/Port/Form.lean
  ================================
  **How the parts of a port specification are written**, and that each reader of a part accepts
  just what is written so.

  A form says how a text is put together, while the readers trim it, cut it and look at its
  characters one by one.  Blanks around a part do not count (`Text.Loose`), and because no form
  has a blank in it, the part is what trimming leaves (`Text.loose_iff`).
-/
import GuestPorts.Effect
import GuestPorts.Port.Spec
import GuestPorts.Proofs.Text.Blank
import GuestPorts.Proofs.Text.Decimal
import GuestPorts.Proofs.Text.Split
import Mathlib.Data.Nat.Digits.Defs

namespace GuestPorts

/-! ### Forms -/

/-- A text of a form with nothing but blanks around it. -/
def Text.Loose (Form : List Char → Prop) (cs : List Char) : Prop :=
  ∃ front core back, isBlankText front = true ∧ isBlankText back = true ∧ Form core ∧
    cs = front ++ core ++ back

/-- One or more digits, any number of zeros in front. -/
structure Text.IsNumeral (n : Nat) (ds : List Char) : Prop where
  ne_nil : ds ≠ []
  isDigit : ∀ c ∈ ds, Text.isDigit c = true
  value : Nat.ofDigits 10 (ds.reverse.map digitValue) = n

def PortForm (p : Port) (cs : List Char) : Prop :=
  ∃ ds, Text.IsNumeral p.toNat ds ∧ (cs = ds ∨ cs = '+' :: ds)

def BoundsForm (bounds : Port × Port) (cs : List Char) : Prop :=
  ∃ first last, Text.Loose (PortForm bounds.1) first ∧ Text.Loose (PortForm bounds.2) last ∧
    cs = first ++ '-' :: last

/-- The word for a protocol, each letter small or capital. -/
def ProtocolForm (q : Protocol) (cs : List Char) : Prop := cs.map Char.toLower = q.word.toList

/-! ### Blanks around a text -/

namespace Text

variable {Form : List Char → Prop} {cs : List Char}

theorem Loose.self (h : Form cs) : Loose Form cs :=
  ⟨[], cs, [], isBlankText_nil, isBlankText_nil, h, by simp⟩

theorem loose_of_trim (h : Form (trim cs)) : Loose Form cs := by
  obtain ⟨front, back, hfront, hback, hcs⟩ := exists_blanks_around_trim cs
  exact ⟨front, trim cs, back, hfront, hback, h, hcs⟩

theorem Loose.exists_trim_eq (h : Loose Form cs) : ∃ core, Form core ∧ trim cs = trim core := by
  obtain ⟨front, core, back, hfront, hback, hform, rfl⟩ := h
  exact ⟨core, hform, trim_append_of_blank hfront hback core⟩

theorem loose_iff (hform : ∀ {core}, Form core → ∀ c ∈ core, isBlank c = false) :
    Loose Form cs ↔ Form (trim cs) := by
  constructor
  · intro h
    obtain ⟨core, hcore, htrim⟩ := h.exists_trim_eq
    rwa [htrim, trim_eq_self (hform hcore)]
  · exact loose_of_trim

theorem Loose.notMem (h : Loose Form cs) {c : Char} (hc : isBlank c = false)
    (hform : ∀ {core}, Form core → c ∉ core) : c ∉ cs := by
  obtain ⟨front, core, back, hfront, hback, hcore, rfl⟩ := h
  have hblanks : ∀ {blanks : List Char}, isBlankText blanks = true → c ∉ blanks := by
    intro blanks hblanks hmem
    rw [List.all_eq_true.1 hblanks c hmem] at hc
    cases hc
  simp [hblanks hfront, hform hcore, hblanks hback]

end Text

/-! ### Ports -/

theorem Text.valueOf_eq_ofDigits (cs : List Char) :
    valueOf cs = Nat.ofDigits 10 (cs.reverse.map digitValue) := by
  rw [Nat.ofDigits_eq_foldr, List.foldr_map, List.foldr_reverse]
  simp only [valueOf, Nat.cast_id, Nat.add_comm]

theorem Text.readDigits_eq_some_iff {cs : List Char} {n : Nat} :
    readDigits cs = some n ↔ IsNumeral n cs := by
  unfold readDigits
  rw [valueOf_eq_ofDigits]
  constructor
  · intro h
    split at h
    · cases h
    · next hcond =>
      simp only [Bool.or_eq_true, List.isEmpty_iff, Bool.not_eq_true', not_or,
        Bool.not_eq_false] at hcond
      exact ⟨hcond.1, List.all_eq_true.1 hcond.2, Option.some.inj h⟩
  · intro h
    have hall : cs.all Text.isDigit = true := List.all_eq_true.2 h.isDigit
    rw [if_neg (by simp [h.ne_nil, hall]), h.value]

theorem Text.numeral_digits (n : Nat) : IsNumeral n (digits n) :=
  readDigits_eq_some_iff.1 (readDigits_digits n)

theorem unsigned_of_numeral {n : Nat} {ds : List Char} (h : Text.IsNumeral n ds) :
    unsigned ds = ds := by
  unfold unsigned
  split
  · next r =>
    have hplus := h.isDigit '+' List.mem_cons_self
    cases hplus
  · rfl

theorem eq_unsigned_or (cs : List Char) : cs = unsigned cs ∨ cs = '+' :: unsigned cs := by
  unfold unsigned
  split
  · exact .inr rfl
  · exact .inl rfl

theorem Port.ofChars?_eq_some_iff {p : Port} {cs : List Char} :
    Port.ofChars? cs = some p ↔ PortForm p cs := by
  constructor
  · intro h
    unfold Port.ofChars? at h
    cases hread : Text.readDigits (unsigned cs) with
    | none =>
      rw [hread] at h
      cases h
    | some n =>
      simp only [hread] at h
      split at h
      · next hlt =>
        have hn : (UInt16.ofNat n).toNat = n := UInt16.toNat_ofNat_of_lt' hlt
        obtain rfl := Option.some.inj h
        refine ⟨unsigned cs, ?_, eq_unsigned_or cs⟩
        rw [hn]
        exact Text.readDigits_eq_some_iff.1 hread
      · cases h
  · rintro ⟨ds, hds, hcs⟩
    have hunsigned : unsigned cs = ds := by
      rcases hcs with rfl | rfl
      · exact unsigned_of_numeral hds
      · rfl
    have hlt : p.toNat < 65536 := p.toNat_lt
    unfold Port.ofChars?
    rw [hunsigned, Text.readDigits_eq_some_iff.2 hds]
    simp [hlt]

theorem PortForm.eq_or_isDigit {p : Port} {cs : List Char} (h : PortForm p cs) {c : Char}
    (hc : c ∈ cs) : c = '+' ∨ Text.isDigit c = true := by
  obtain ⟨ds, hds, rfl | rfl⟩ := h
  · exact .inr (hds.isDigit c hc)
  · rcases List.mem_cons.1 hc with rfl | hc
    · exact .inl rfl
    · exact .inr (hds.isDigit c hc)

theorem PortForm.isBlank_eq_false {p : Port} {cs : List Char} (h : PortForm p cs) :
    ∀ c ∈ cs, Text.isBlank c = false := by
  intro c hc
  rcases h.eq_or_isDigit hc with rfl | hdigit
  · rfl
  · exact Text.isBlank_of_isDigit hdigit

theorem PortForm.notMem {p : Port} {cs : List Char} (h : PortForm p cs) {c : Char} (hplus : c ≠ '+')
    (hdigit : Text.isDigit c = false) : c ∉ cs := by
  intro hc
  rcases h.eq_or_isDigit hc with rfl | htrue
  · exact hplus rfl
  · rw [hdigit] at htrue
    cases htrue

theorem portForm_digits (p : Port) : PortForm p (Text.digits p.toNat) :=
  ⟨_, Text.numeral_digits _, .inl rfl⟩

theorem readPort_eq_ok_iff {spec : String} {raw : List Char} {p : Port} :
    readPort spec raw = .ok p ↔ Text.Loose (PortForm p) raw := by
  rw [Text.loose_iff PortForm.isBlank_eq_false, ← Port.ofChars?_eq_some_iff, readPort]
  cases Port.ofChars? (Text.trim raw) with
  | none => simp
  | some q => simp

theorem readBounds_eq_ok_iff {spec : String} {part : List Char} {bounds : Port × Port} :
    readBounds spec part = .ok bounds ↔ BoundsForm bounds part := by
  unfold readBounds
  constructor
  · intro h
    cases hcut : Text.cutAt '-' part with
    | none =>
      rw [hcut] at h
      cases h
    | some sides =>
      simp only [hcut] at h
      obtain ⟨first, hfirst, h⟩ := Except.bind_eq_ok.1 h
      obtain ⟨last, hlast, h⟩ := Except.bind_eq_ok.1 h
      cases h
      exact ⟨sides.1, sides.2, readPort_eq_ok_iff.1 hfirst, readPort_eq_ok_iff.1 hlast,
        (Text.cutAt_eq_some_iff.1 hcut).2⟩
  · rintro ⟨first, last, hfirst, hlast, rfl⟩
    -- the first hyphen is the one between the bounds, because a port holds none
    have hhyphen : '-' ∉ first := hfirst.notMem rfl fun h => h.notMem (by decide) rfl
    rw [Text.cutAt_append_sep hhyphen]
    refine Except.bind_eq_ok.2 ⟨bounds.1, readPort_eq_ok_iff.2 hfirst, ?_⟩
    exact Except.bind_eq_ok.2 ⟨bounds.2, readPort_eq_ok_iff.2 hlast, rfl⟩

/-! ### Protocols -/

theorem Text.asciiLower_eq_toLower (c : Char) : asciiLower c = c.toLower := by
  have hiff : ('A' ≤ c && c ≤ 'Z') = true ↔ c.val ≥ 'A'.val ∧ c.val ≤ 'Z'.val := by
    rw [Bool.and_eq_true, decide_eq_true_eq, decide_eq_true_eq]
    exact Iff.rfl
  unfold asciiLower
  by_cases h : c.val ≥ 'A'.val ∧ c.val ≤ 'Z'.val
  · have hle : c.toNat ≤ 90 := h.2
    -- a capital letter is far from where the sum would wrap
    have hsum : c.toLower.toNat = c.toNat + 32 := by
      have hval : c.toLower.val = c.val + 32 := congrArg Char.val (dif_pos h)
      have hadd : (c.val + 32).toNat = c.toNat + 32 :=
        (UInt32.toNat_add c.val 32).trans (Nat.mod_eq_of_lt (show c.toNat + 32 < _ by omega))
      exact (congrArg UInt32.toNat hval).trans hadd
    rw [if_pos (hiff.2 h), ← hsum, Char.ofNat_toNat]
  · have hkept : c.toLower = c := dif_neg h
    rw [if_neg (mt hiff.1 h), hkept]

theorem Text.toLower_of_isBlank {c : Char} (h : isBlank c = true) : c.toLower = c := by
  refine dif_neg ?_
  rintro ⟨hge, hle⟩
  have hge' : 65 ≤ c.toNat := hge
  have hle' : c.toNat ≤ 90 := hle
  simp only [isBlank, Bool.or_eq_true, Bool.and_eq_true, decide_eq_true_eq, beq_iff_eq] at h
  omega

namespace ProtocolForm

variable {q : Protocol} {cs : List Char}

theorem toLower_mem (h : ProtocolForm q cs) {c : Char} (hc : c ∈ cs) :
    c.toLower ∈ q.word.toList := by
  rw [← h]
  exact List.mem_map_of_mem hc

theorem isBlank_eq_false (h : ProtocolForm q cs) : ∀ c ∈ cs, Text.isBlank c = false := by
  have hword : q.word.toList.any Text.isBlank = false := by
    cases q <;> decide
  intro c hc
  rw [Bool.eq_false_iff]
  intro hblank
  have hmem := h.toLower_mem hc
  rw [Text.toLower_of_isBlank hblank] at hmem
  exact List.any_eq_false.1 hword c hmem hblank

theorem notMem (h : ProtocolForm q cs) {c : Char} (hc : c.toLower ∉ q.word.toList) : c ∉ cs :=
  fun hmem => hc (h.toLower_mem hmem)

end ProtocolForm

theorem Protocol.ofChars_eq_ok_iff {q : Protocol} {cs : List Char} :
    Protocol.ofChars cs = .ok q ↔ Text.Loose (ProtocolForm q) cs := by
  have hlower : Text.asciiLower = Char.toLower := funext Text.asciiLower_eq_toLower
  rw [Text.loose_iff ProtocolForm.isBlank_eq_false]
  unfold Protocol.ofChars ProtocolForm
  rw [hlower]
  generalize (Text.trim cs).map Char.toLower = lowered
  have htcp : Protocol.tcp.word.toList = ['t', 'c', 'p'] := by decide
  have hudp : Protocol.udp.word.toList = ['u', 'd', 'p'] := by decide
  simp only
  split
  · next h =>
    cases q with
    | tcp => simp [h, htcp]
    | udp => simp [h, hudp]
  · next h =>
    split
    · next h' =>
      cases q with
      | tcp => simp [h', htcp]
      | udp => simp [h', hudp]
    · next h' =>
      cases q with
      | tcp => simp [h, htcp]
      | udp => simp [h', hudp]

theorem protocolForm_word (q : Protocol) : ProtocolForm q q.word.toList := by
  unfold ProtocolForm
  cases q <;> decide

end GuestPorts
