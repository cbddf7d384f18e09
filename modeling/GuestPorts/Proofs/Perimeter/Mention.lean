/-
  GuestPorts/Proofs/Perimeter/Mention.lean
  ========================================
  **When a guest counts as exposed** (`exposed_iff_named`).

  Two things are asked of the block, each of the block as a whole: whether one of its lines is
  on, and whether one of them, on or off, has the text of the guest's address in it with a colon
  behind it.  In a rule this text can stand at the end of the destination, in the ports or in the
  note (`RuleParts.names_line_iff`).  One line that is on is enough for the rules behind a
  comment marker to count (`exposed_by_comment`).

  A destination that ends with the text of a shorter address has that text in front of its colon
  as well.  Such addresses are left out here.
-/
import GuestPorts.Proofs.Perimeter.Exposure

namespace GuestPorts.Perimeter

/-- The address stands in the text with a colon behind it. -/
def Names (text : List Char) (ip : Address) : Prop := ip.toChars ++ [':'] <:+: text

variable {text : List Char} {ip guest : Address} {c : Char}

theorem dot_mem_of_names (h : Names text ip) : '.' ∈ text := by
  apply List.IsInfix.subset h
  simp [Address.toChars, Text.join]

theorem notMem_toChars_of_not_isDigit (hdot : c ≠ '.') (hdigit : Text.isDigit c = false) :
    c ∉ ip.toChars := by
  intro hmem
  rcases ip.eq_or_isDigit_of_mem_toChars hmem with hc | hc
  · exact hdot hc
  · rw [hdigit] at hc
    cases hc

theorem eq_of_toChars_eq {ip' : Address} (h : ip.toChars = ip'.toChars) : ip = ip' :=
  Address.text_inj (congrArg String.ofList h)

/-- A character that no address has, nor the colon behind it, cuts a text in two when an address
    is looked for. -/
theorem notMem_toChars_append_colon (hdot : c ≠ '.') (hcolon : c ≠ ':')
    (hdigit : Text.isDigit c = false) : c ∉ ip.toChars ++ [':'] := by
  simp [notMem_toChars_of_not_isDigit hdot hdigit, hcolon]

theorem names_trim_iff : Names (Text.trim text) ip ↔ Names text ip := by
  apply Text.infix_trim_iff
  intro c hc
  rcases List.mem_append.1 hc with hip | hcolon
  · rcases ip.eq_or_isDigit_of_mem_toChars hip with rfl | hdigit
    · decide
    · exact Text.isBlank_of_isDigit hdigit
  · obtain rfl := List.mem_singleton.1 hcolon
    decide

/-! ### Where a rule names an address -/

/-- What a rule is made of; the ports are any texts. -/
structure RuleParts where
  protocol : Protocol
  hostPorts : String
  guest : Address
  guestPorts : String
  note : String

namespace RuleParts

def line (r : RuleParts) : Line :=
  (ruleLine r.protocol r.hostPorts r.guest r.guestPorts r.note).toList

/-- The rule is in the line, plain or behind a comment marker. -/
def StandsIn (r : RuleParts) (line : Line) : Prop :=
  ({} : Block).matchesRule r.line line = true

def texts (r : RuleParts) : List String := [r.hostPorts, r.guestPorts, r.note]

end RuleParts

theorem names_lineOf_iff (ws : List String) (note : String) :
    Names (lineOf ws note) ip ↔ (∃ w ∈ ws, Names w.toList ip) ∨ Names note.toList ip := by
  have hquote : '"' ∉ ip.toChars ++ [':'] :=
    notMem_toChars_append_colon (by decide) (by decide) (by decide)
  have hblank : ' ' ∉ ip.toChars ++ [':'] :=
    notMem_toChars_append_colon (by decide) (by decide) (by decide)
  have hwords : Names (ws.flatMap fun w => w.toList ++ [' ']) ip ↔ ∃ w ∈ ws, Names w.toList ip := by
    induction ws with
    | nil => simp [Names]
    | cons w rest ih =>
      unfold Names at ih ⊢
      rw [List.flatMap_cons, List.append_assoc, List.singleton_append,
        Text.infix_append_cons_iff hblank, ih]
      simp
  unfold Names at hwords ⊢
  rw [lineOf, Text.infix_append_cons_iff hquote, Text.infix_append_cons_iff hquote, hwords]
  simp

/-- The first colon ends the destination, which has no colon itself. -/
theorem names_endpoint_iff (guestPorts : String) :
    Names (guest.text ++ ":" ++ guestPorts).toList ip ↔
      ip.toChars <:+ guest.toChars ∨ Names guestPorts.toList ip := by
  have hcolon : ∀ x : Address, ':' ∉ x.toChars :=
    fun x => notMem_toChars_of_not_isDigit (by decide) (by decide)
  have hword : (guest.text ++ ":" ++ guestPorts).toList
      = guest.toChars ++ ':' :: guestPorts.toList := by
    simp [Address.text]
  unfold Names
  rw [hword, Text.infix_append_cons_of_notMem_iff (hcolon ip) (hcolon guest)]

/-- No address is lost or found when the quotes of a note are replaced. -/
theorem names_unquoted_iff (note : String) :
    Names (unquoted note).toList ip ↔ Names note.toList ip := by
  let apostrophe (c : Char) : Char := if c = '"' then '\'' else c
  have hsame : ∀ {cs : List Char}, '"' ∉ cs → cs.map apostrophe = cs := by
    intro cs hcs
    refine (List.map_congr_left fun c hc => if_neg ?_).trans (List.map_id cs)
    rintro rfl
    exact hcs hc
  have hnone : '\'' ∉ ip.toChars ++ [':'] :=
    notMem_toChars_append_colon (by decide) (by decide) (by decide)
  rw [unquoted, String.toList_ofList]
  unfold Names
  constructor
  · intro h
    obtain ⟨part, hpart, hmap⟩ := List.infix_map_iff.1 h
    -- a quote in the note would leave an apostrophe in the address
    have hquote : '"' ∉ part := by
      intro hmem
      apply hnone
      rw [hmap]
      exact List.mem_map.2 ⟨'"', hmem, rfl⟩
    have hwhole : part.map apostrophe = part := hsame hquote
    rw [hmap]
    rwa [hwhole]
  · intro h
    have hquote : '"' ∉ ip.toChars ++ [':'] :=
      notMem_toChars_append_colon (by decide) (by decide) (by decide)
    have hpart := h.map apostrophe
    rwa [hsame hquote] at hpart

namespace RuleParts

/-- **A rule names the addresses that its destination ends with**, and those that stand in its
    ports and its note. -/
theorem names_line_iff (r : RuleParts) : Names r.line ip ↔
    ip.toChars <:+ r.guest.toChars ∨ ∃ t ∈ r.texts, Names t.toList ip := by
  have hnone : ∀ w : String, '.' ∉ w.toList → ¬ Names w.toList ip :=
    fun w hdot h => hdot (dot_mem_of_names h)
  have hprotocol : '.' ∉ r.protocol.word.toList := by
    cases r.protocol <;> decide
  have hfixed : ∀ w ∈ ["-A", "PREROUTING", "-p", r.protocol.word, "--dport", "-j", "DNAT",
      "--to-destination", "-m", "comment", "--comment"], ¬ Names w.toList ip := by
    intro w hw
    apply hnone
    simp only [List.mem_cons, List.not_mem_nil, or_false] at hw
    rcases hw with rfl | rfl | rfl | rfl | rfl | rfl | rfl | rfl | rfl | rfl | rfl
    case inr.inr.inr.inl => exact hprotocol
    all_goals decide
  simp only [List.forall_mem_cons] at hfixed
  rw [line, toList_ruleLine, names_lineOf_iff, names_unquoted_iff, ruleWords]
  have hnil : ∀ p : String → Prop, ¬ ∃ w ∈ [], p w := by simp
  simp only [texts, List.exists_mem_cons_iff, hfixed, names_endpoint_iff, hnil, false_or, or_false,
    or_assoc, or_left_comm]

theorem names_of_standsIn_iff {r : RuleParts} {line : Line} (h : r.StandsIn line) :
    Names line ip ↔ ip.toChars <:+ r.guest.toChars ∨ ∃ t ∈ r.texts, Names t.toList ip := by
  have hhash : '#' ∉ ip.toChars ++ [':'] :=
    notMem_toChars_append_colon (by decide) (by decide) (by decide)
  have hblank : ' ' ∉ ip.toChars ++ [':'] :=
    notMem_toChars_append_colon (by decide) (by decide) (by decide)
  rw [← names_trim_iff, ← r.names_line_iff]
  rcases (Block.matchesRule_iff (trim_ruleLine ..)).1 h with hplain | hcomment
  · rw [hplain]
    rfl
  · rw [hcomment]
    unfold Names
    rw [Text.infix_cons_of_notMem_iff hhash, Text.infix_cons_of_notMem_iff hblank]
    rfl

end RuleParts

/-! ### What is asked of the block -/

theorem Block.isExposed_iff {b : Block} : b.isExposed ip text = true ↔
    (∃ line ∈ b.filledLines text, b.isLineCommented line = false) ∧
      ∃ line ∈ b.filledLines text, Names line ip := by
  unfold isExposed isCommented filledLines
  cases b.locate (Text.lines text) with
  | none => simp
  | some found => simp [isInactive, Names, Text.hasPart_iff_infix]

/-- **When a guest counts as exposed.**  In a block of rules, and of lines that name no address,
    it does just when some filled line is no comment and some rule, plain or commented, has the
    guest's address as its destination or names it in its ports or its note.  This is said of
    addresses that no other address named in the block ends with. -/
theorem exposed_iff_named
    (hlines : ∀ line ∈ ({} : Block).filledLines text,
      (∃ r : RuleParts, r.StandsIn line) ∨ ∀ other, ¬ Names line other)
    (hends : ∀ line ∈ ({} : Block).filledLines text, ∀ other : Address,
      Names line other → ip.toChars <:+ other.toChars → other = ip) :
    ({} : Block).isExposed ip text = true ↔
      (∃ line ∈ ({} : Block).filledLines text, ({} : Block).isLineCommented line = false) ∧
        ∃ line ∈ ({} : Block).filledLines text, ∃ r : RuleParts, r.StandsIn line ∧
          (r.guest = ip ∨ ∃ t ∈ r.texts, Names t.toList ip) := by
  rw [Block.isExposed_iff]
  apply and_congr_right'
  constructor
  · rintro ⟨line, hline, hnames⟩
    rcases hlines line hline with ⟨r, hr⟩ | hnone
    · refine ⟨line, hline, r, hr, ?_⟩
      rcases (RuleParts.names_of_standsIn_iff hr).1 hnames with hend | htext
      · have hguest : Names line r.guest :=
          (RuleParts.names_of_standsIn_iff hr).2 (.inl (List.suffix_refl _))
        exact .inl (hends line hline r.guest hguest hend)
      · exact .inr htext
    · exact absurd hnames (hnone ip)
  · rintro ⟨line, hline, r, hr, hnamed⟩
    refine ⟨line, hline, (RuleParts.names_of_standsIn_iff hr).2 ?_⟩
    rcases hnamed with rfl | htext
    · exact .inl (List.suffix_refl _)
    · exact .inr htext

/-! ### A rule behind a comment marker -/

/-- The rule of a guest, as it was given by hand. -/
def RuleParts.spark : RuleParts :=
  ⟨.tcp, "1100", ⟨192, 168, 122, 101⟩, "3000", "kvmfwd spark host 1100 to vm 3000"⟩

/-- A block with a commented rule between lines that are on. -/
def Block.mixed : List Char :=
  "#KVM_GO_START\n*nat\n# ".toList ++ RuleParts.spark.line ++ "\nCOMMIT\n#KVM_GO_END".toList

theorem Block.filledLines_mixed : ({} : Block).filledLines Block.mixed
    = ["*nat".toList, '#' :: ' ' :: RuleParts.spark.line, "COMMIT".toList] := by
  decide +kernel

theorem RuleParts.standsIn_mixed :
    RuleParts.spark.StandsIn ('#' :: ' ' :: RuleParts.spark.line) := by
  unfold StandsIn
  decide +kernel

theorem Block.forall_filledLines_mixed : ∀ line ∈ ({} : Block).filledLines Block.mixed,
    (line = '#' :: ' ' :: RuleParts.spark.line ∧ RuleParts.spark.StandsIn line) ∨
      ∀ other, ¬ Names line other := by
  have hnone : ∀ line ∈ ["*nat".toList, "COMMIT".toList], ∀ other, ¬ Names line other := by
    intro line hline other hnames
    have hdot : ∀ line ∈ ["*nat".toList, "COMMIT".toList], '.' ∉ line := by decide
    exact hdot line hline (dot_mem_of_names hnames)
  rw [Block.filledLines_mixed]
  intro line hline
  simp only [List.mem_cons, List.not_mem_nil, or_false] at hline
  rcases hline with rfl | rfl | rfl
  · exact .inr (hnone _ (by simp))
  · exact .inl ⟨rfl, RuleParts.standsIn_mixed⟩
  · exact .inr (hnone _ (by simp))

/-- The commented rule counts, since other lines of the block are on. -/
theorem exposed_iff_named_mixed :
    let ip : Address := ⟨192, 168, 122, 101⟩
    (∀ line ∈ ({} : Block).filledLines Block.mixed,
        (∃ r : RuleParts, r.StandsIn line) ∨ ∀ other, ¬ Names line other) ∧
      (∀ line ∈ ({} : Block).filledLines Block.mixed, ∀ other : Address,
        Names line other → ip.toChars <:+ other.toChars → other = ip) ∧
      ({} : Block).isExposed ip Block.mixed = true := by
  intro ip
  have hlines : ∀ line ∈ ({} : Block).filledLines Block.mixed,
      (∃ r : RuleParts, r.StandsIn line) ∨ ∀ other, ¬ Names line other :=
    fun line hline => (Block.forall_filledLines_mixed line hline).imp_left fun h => ⟨_, h.2⟩
  have hends : ∀ line ∈ ({} : Block).filledLines Block.mixed, ∀ other : Address,
      Names line other → ip.toChars <:+ other.toChars → other = ip := by
    intro line hline other hnames hend
    rcases Block.forall_filledLines_mixed line hline with ⟨rfl, hrule⟩ | hnone
    · rcases (RuleParts.names_of_standsIn_iff hrule).1 hnames with hsuffix | ⟨t, ht, hnamed⟩
      · exact eq_of_toChars_eq (hsuffix.eq_of_length_le hend.length_le)
      · have hdot : ∀ t ∈ RuleParts.spark.texts, '.' ∉ t.toList := by decide
        exact absurd (dot_mem_of_names hnamed) (hdot t ht)
    · exact absurd hnames (hnone other)
  refine ⟨hlines, hends, (exposed_iff_named hlines hends).2 ⟨?_, ?_⟩⟩
  · decide +kernel
  · refine ⟨'#' :: ' ' :: RuleParts.spark.line, ?_, RuleParts.spark, RuleParts.standsIn_mixed,
      .inl rfl⟩
    rw [Block.filledLines_mixed]
    simp

/-- **A guest counts as exposed although no rule to it is on**: the block is on for another line,
    and the only rule is a comment. -/
theorem exposed_by_comment :
    let ip : Address := ⟨192, 168, 122, 101⟩
    (∀ line ∈ ({} : Block).filledLines Block.mixed,
        (∃ r : RuleParts, r.StandsIn line) ∨ ∀ other, ¬ Names line other) ∧
      ({} : Block).isExposed ip Block.mixed = true ∧
      ¬ ∃ line ∈ ({} : Block).filledLines Block.mixed, ∃ r : RuleParts,
        Text.trim line = r.line ∧ r.guest = ip := by
  intro ip
  refine ⟨fun line hline => (Block.forall_filledLines_mixed line hline).imp_left fun h => ⟨_, h.2⟩,
    by decide +kernel, ?_⟩
  rintro ⟨line, hline, r, hr, -⟩
  have hhead : ∀ line ∈ ({} : Block).filledLines Block.mixed, (Text.trim line).head? ≠ some '-' := by
    decide +kernel
  obtain ⟨rest, hrest⟩ := exists_ruleLine_eq r.protocol r.hostPorts r.guest r.guestPorts r.note
  apply hhead line hline
  rw [hr, RuleParts.line, hrest]
  rfl

end GuestPorts.Perimeter
