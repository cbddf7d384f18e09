/-
  GuestPorts/Proofs/Yaml/Characters.lean
  ======================================
  **Every written scalar may stand in a YAML text** (`printable_writeScalar`).

  Between double quotes whatever does not show is written with letters and digits; in every
  other style the text shows as itself.
-/
import GuestPorts.Proofs.Yaml.Style

namespace GuestPorts.Yaml

/-- All characters of a text may stand in a YAML text. -/
def Printable (cs : List Char) : Prop := ∀ c ∈ cs, isTextChar c = true

theorem printable_nil : Printable [] := nofun

theorem Printable.append {cs ds : List Char} (hcs : Printable cs) (hds : Printable ds) :
    Printable (cs ++ ds) := List.forall_mem_append.2 ⟨hcs, hds⟩

theorem Printable.cons {c : Char} {cs : List Char} (hc : isTextChar c = true) (hcs : Printable cs) :
    Printable (c :: cs) := List.forall_mem_cons.2 ⟨hc, hcs⟩

/-- The check of a text that is written out. -/
theorem printable_of_all {cs : List Char} (h : cs.all isTextChar = true) : Printable cs :=
  List.all_eq_true.1 h

theorem printable_spaces (n : Nat) : Printable (List.replicate n ' ') := by
  intro c hc
  rw [List.eq_of_mem_replicate hc]
  decide

theorem isTextChar_of_isShown {c : Char} (h : isShown c = true) : isTextChar c = true := by
  simp only [isShown, isTextChar, Bool.or_eq_true, Bool.and_eq_true, decide_eq_true_eq] at h ⊢
  rcases h with ((h | h) | h) | h
  · simp [h]
  · simp [h]
  · simp [h]
  · simp [h]

theorem printable_hexCapitals (width n : Nat) : Printable (hexCapitals width n) := by
  have hdigit : ∀ m : Fin 16, isTextChar (Nat.digitChar m.val).toUpper = true := by decide
  induction width generalizing n with
  | zero => exact printable_nil
  | succ width ih =>
    have hlast := hdigit ⟨n % 16, Nat.mod_lt n (by decide)⟩
    exact (ih (n / 16)).append (printable_nil.cons hlast)

theorem printable_shown {cs : List Char} (h : ∀ c ∈ cs, isShown c = true) : Printable cs :=
  fun c hc => isTextChar_of_isShown (h c hc)

theorem printable_doubleEscape (c : Char) : Printable (doubleEscape c) := by
  have hslash : isTextChar '\\' = true := by decide
  have hletters : ∀ p ∈ letterEscapes, isTextChar p.1 = true := by decide
  have hcodes : ∀ p ∈ codeEscapes, isTextChar p.1 = true := by decide
  rcases doubleEscape_cases c with ⟨e, he, -, h⟩ | ⟨hshown, -, -, -, h⟩ | ⟨e, width, he, -, h⟩
  · obtain ⟨before, after, hsplit, -⟩ := List.lookup_eq_some_iff.1 he
    have hmem : (e, c) ∈ letterEscapes := by
      rw [hsplit]
      exact List.mem_append_right before List.mem_cons_self
    rw [h]
    exact (printable_nil.cons (hletters (e, c) hmem)).cons hslash
  · rw [h]
    exact printable_nil.cons (isTextChar_of_isShown hshown)
  · rw [h]
    exact ((printable_hexCapitals width c.toNat).cons (hcodes (e, width) he)).cons hslash

/-- The indentation of a line has spaces only. -/
theorem eq_space_of_mem_indent {n : Nat} {afterBreak : Bool} {c : Char}
    (h : c ∈ if afterBreak then List.replicate n ' ' else []) : c = ' ' := by
  cases afterBreak with
  | true => exact List.eq_of_mem_replicate h
  | false => cases h

theorem mem_singleText {n : Nat} {afterBreak : Bool} {cs : List Char} {c : Char}
    (h : c ∈ singleText n afterBreak cs) : c ∈ cs ∨ c = ' ' ∨ c = '\'' := by
  induction cs generalizing afterBreak with
  | nil => cases h
  | cons d cs ih =>
    have hmore : ∀ afterBreak, c ∈ singleText n afterBreak cs → c ∈ d :: cs ∨ c = ' ' ∨ c = '\'' :=
      fun _ hc => (ih hc).imp_left (List.mem_cons_of_mem d)
    rw [singleText] at h
    split at h
    · rcases List.mem_cons.1 h with rfl | h
      · exact .inl List.mem_cons_self
      · exact hmore true h
    · simp only [List.mem_append] at h
      rcases h with (h | h) | h
      · exact .inr (.inl (eq_space_of_mem_indent h))
      · split at h
        · simp only [List.mem_cons, List.not_mem_nil, or_false, or_self] at h
          exact .inr (.inr h)
        · rw [List.mem_singleton.1 h]
          exact .inl List.mem_cons_self
      · exact hmore false h

theorem mem_literalText {n : Nat} {afterBreak : Bool} {cs : List Char} {c : Char}
    (h : c ∈ literalText n afterBreak cs) : c ∈ cs ∨ c = ' ' := by
  induction cs generalizing afterBreak with
  | nil => cases h
  | cons d cs ih =>
    have hmore : ∀ afterBreak, c ∈ literalText n afterBreak cs → c ∈ d :: cs ∨ c = ' ' :=
      fun _ hc => (ih hc).imp_left (List.mem_cons_of_mem d)
    rw [literalText] at h
    split at h
    · rcases List.mem_cons.1 h with rfl | h
      · exact .inl List.mem_cons_self
      · exact hmore true h
    · rw [List.mem_append, List.mem_cons] at h
      rcases h with h | rfl | h
      · exact .inr (eq_space_of_mem_indent h)
      · exact .inl List.mem_cons_self
      · exact hmore false h

theorem printable_singleText {n : Nat} {cs : List Char} (h : ∀ c ∈ cs, isShown c = true) :
    Printable (singleText n false cs) := by
  intro c hc
  rcases mem_singleText hc with hc | rfl | rfl
  · exact isTextChar_of_isShown (h c hc)
  · decide
  · decide

theorem printable_literalText {n : Nat} {cs : List Char} (h : ∀ c ∈ cs, isShown c = true) :
    Printable (literalText n true cs) := by
  intro c hc
  rcases mem_literalText hc with hc | rfl
  · exact isTextChar_of_isShown (h c hc)
  · decide

theorem printable_literalHints (cs : List Char) : Printable (literalHints cs) := by
  rw [literalHints_eq]
  cases leadsBlank cs <;> cases chompFor cs <;> exact printable_of_all (by decide)

theorem printable_lastBreak (cs : List Char) : Printable (lastBreak cs) := by
  unfold lastBreak
  split
  · exact printable_nil
  · exact printable_nil.cons (by decide)

/-- **A written scalar may stand in a text**, whatever it is. -/
theorem printable_writeScalar (n : Nat) (cs : List Char) : Printable (writeScalar n cs) := by
  have hfeed : Printable ['\n'] := printable_nil.cons (by decide)
  have hquoted : ∀ {single : Bool} {text : List Char}, Printable text →
      Printable (quoteMark single :: (text ++ [quoteMark single, '\n'])) := by
    intro single text htext
    have hmark : isTextChar (quoteMark single) = true := by cases single <;> decide
    exact (htext.append (hfeed.cons hmark)).cons hmark
  rcases styleFor_cases cs with ⟨hstyle, hfits, -, -⟩ | ⟨hstyle, hfits⟩ | hstyle |
    ⟨hstyle, -, hshown⟩
  · rw [writeScalar_plain hstyle]
    exact (printable_shown hfits.shown).append hfeed
  · rw [writeScalar_single hstyle]
    exact hquoted (printable_singleText hfits.shown)
  · rw [writeScalar_double hstyle]
    apply hquoted
    intro c hc
    obtain ⟨d, -, hc⟩ := List.mem_flatMap.1 hc
    exact printable_doubleEscape d c hc
  · rw [writeScalar_literal hstyle]
    have hlines := (printable_literalText (n := n) hshown).append (printable_lastBreak cs)
    exact ((printable_literalHints cs).append (hlines.cons (by decide))).cons (by decide)

end GuestPorts.Yaml
