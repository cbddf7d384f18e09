/-
  GuestPorts/Proofs/Port/Grammar.lean
  ===================================
  **Port specifications have one grammar** (`specs_have_one_grammar`).

      specification  =  [protocol ':'] side ':' side       the host's side first
      side           =  port                               of a mapping
                     |  port '-' port                      of a range
      port           =  ['+'] digit ... digit              below 65536
      protocol       =  'tcp' | 'udp'                      in any case

  Blanks may stand around the whole, around the protocol and around each port.  The grammar
  puts texts together (`SpecForm`), while the reader takes them apart: it trims, splits at every
  colon and reads the pieces.  That the pieces are the parts rests on two facts, which are all
  that is asked of a side (`SideForm`): it holds no colon, and trimming the whole leaves it a
  side.  Mappings and ranges differ in their sides only, so both are read by `readSides`.

  What is refused is refused for a reason that can be checked against the text
  (`SpecError.Explains`), and no text is both a mapping and a range, as one of them has
  hyphens and the other has none.
-/
import GuestPorts.Proofs.Port.Form

namespace GuestPorts

/-! ### The grammar -/

/-- The sides of a specification behind its protocol, which may be left out if it is `tcp`. -/
inductive SpecForm (q : Protocol) (Host Guest : List Char → Prop) : List Char → Prop
  | named {proto host guest : List Char} (hproto : Text.Loose (ProtocolForm q) proto)
    (hhost : Host host) (hguest : Guest guest) :
    SpecForm q Host Guest (proto ++ ':' :: (host ++ ':' :: guest))
  | unnamed {host guest : List Char} (hproto : q = .tcp) (hhost : Host host)
    (hguest : Guest guest) : SpecForm q Host Guest (host ++ ':' :: guest)

def Mapping.SpecText (m : Mapping) (s : String) : Prop :=
  Text.Loose (SpecForm m.protocol (Text.Loose (PortForm m.hostPort))
    (Text.Loose (PortForm m.vmPort))) s.toList

def PortRange.SpecText (r : PortRange) (s : String) : Prop :=
  Text.Loose (SpecForm r.protocol (BoundsForm (r.hostStart, r.hostEnd))
    (BoundsForm (r.vmStart, r.vmEnd))) s.toList

/-- What an error says about a text is so. -/
def SpecError.Explains (s : String) : SpecError → Prop
  | .unknownProtocol lowered => ∃ proto, proto ++ [':'] <+: Text.trim s.toList ∧
      lowered = String.ofList ((Text.trim proto).map Char.toLower) ∧
      ∀ q, ¬Text.Loose (ProtocolForm q) proto
  | .notMapping spec | .notRange spec =>
      spec = s ∧ s.toList.count ':' ≠ 1 ∧ s.toList.count ':' ≠ 2
  | .notBounds part spec => spec = s ∧ part.toList <:+: s.toList ∧ '-' ∉ part.toList
  | .badPort raw spec => spec = s ∧ raw.toList <:+: s.toList ∧
      ∀ p, ¬Text.Loose (PortForm p) raw.toList

/-! ### Sides -/

/-- What a reader may ask of a side: trimming the whole leaves it a side, and no colon of it is
    taken for one between sides. -/
structure SideForm (Side : List Char → Prop) : Prop where
  trimStart : ∀ {cs}, Side cs → Side (Text.trimStart cs)
  trimEnd : ∀ {cs}, Side cs → Side (Text.trimEnd cs)
  colon : ∀ {cs}, Side cs → ':' ∉ cs

theorem sideForm_loose {Form : List Char → Prop}
    (hform : ∀ {core}, Form core → ∀ c ∈ core, Text.isBlank c = false)
    (hcolon : ∀ {core}, Form core → ':' ∉ core) : SideForm (Text.Loose Form) where
  trimStart := by
    intro cs h
    rw [Text.loose_iff hform] at h ⊢
    rwa [Text.trim_trimStart]
  trimEnd := by
    intro cs h
    rw [Text.loose_iff hform] at h ⊢
    rwa [Text.trim_trimEnd]
  colon := fun h => h.notMem rfl hcolon

theorem sideForm_protocol (q : Protocol) : SideForm (Text.Loose (ProtocolForm q)) := by
  refine sideForm_loose ProtocolForm.isBlank_eq_false fun h => h.notMem ?_
  cases q <;> decide

theorem sideForm_port (p : Port) : SideForm (Text.Loose (PortForm p)) :=
  sideForm_loose PortForm.isBlank_eq_false fun h => h.notMem (by decide) rfl

theorem sideForm_bounds (bounds : Port × Port) : SideForm (BoundsForm bounds) where
  trimStart := by
    rintro cs ⟨first, last, hfirst, hlast, rfl⟩
    exact ⟨_, last, (sideForm_port _).trimStart hfirst, hlast,
      Text.trimStart_append_cons rfl first last⟩
  trimEnd := by
    rintro cs ⟨first, last, hfirst, hlast, rfl⟩
    exact ⟨first, _, hfirst, (sideForm_port _).trimEnd hlast,
      Text.trimEnd_append_cons rfl first last⟩
  colon := by
    rintro cs ⟨first, last, hfirst, hlast, rfl⟩ hmem
    rcases List.mem_append.1 hmem with hmem | hmem
    · exact (sideForm_port _).colon hfirst hmem
    · rcases List.mem_cons.1 hmem with hhyphen | hmem
      · exact absurd hhyphen (by decide)
      · exact (sideForm_port _).colon hlast hmem

/-! ### Whole specifications -/

section Sides

variable {q : Protocol} {Host Guest : List Char → Prop} (hHost : SideForm Host)
  (hGuest : SideForm Guest)
include hHost hGuest

/-- Blanks around the whole are blanks around the parts at its ends. -/
theorem SpecForm.trim {cs : List Char} (h : SpecForm q Host Guest cs) :
    SpecForm q Host Guest (Text.trim cs) := by
  cases h with
  | named hproto hhost hguest =>
    rw [Text.trim_append_cons rfl, Text.trimEnd_append_cons rfl]
    exact .named ((sideForm_protocol q).trimStart hproto) hhost (hGuest.trimEnd hguest)
  | unnamed hproto hhost hguest =>
    rw [Text.trim_append_cons rfl]
    exact .unnamed hproto (hHost.trimStart hhost) (hGuest.trimEnd hguest)

theorem loose_specForm_iff {cs : List Char} :
    Text.Loose (SpecForm q Host Guest) cs ↔ SpecForm q Host Guest (Text.trim cs) := by
  constructor
  · intro h
    obtain ⟨core, hcore, htrim⟩ := h.exists_trim_eq
    rw [htrim]
    exact hcore.trim hHost hGuest
  · exact Text.loose_of_trim

/-- The pieces between the colons are the parts that were put together. -/
theorem specForm_iff_splitAt {cs : List Char} :
    SpecForm q Host Guest cs ↔ ∃ host guest,
      ((∃ proto, Text.splitAt ':' cs = [proto, host, guest] ∧ Text.Loose (ProtocolForm q) proto) ∨
        Text.splitAt ':' cs = [host, guest] ∧ q = .tcp) ∧ Host host ∧ Guest guest := by
  constructor
  · rintro (@⟨proto, host, guest, hproto, hhost, hguest⟩ | @⟨host, guest, hproto, hhost, hguest⟩)
    · refine ⟨host, guest, .inl ⟨proto, ?_, hproto⟩, hhost, hguest⟩
      rw [Text.splitAt_append_sep ((sideForm_protocol q).colon hproto),
        Text.splitAt_append_sep (hHost.colon hhost), Text.splitAt_of_notMem (hGuest.colon hguest)]
    · refine ⟨host, guest, .inr ⟨?_, hproto⟩, hhost, hguest⟩
      rw [Text.splitAt_append_sep (hHost.colon hhost), Text.splitAt_of_notMem (hGuest.colon hguest)]
  · rintro ⟨host, guest, hparts, hhost, hguest⟩
    rw [← Text.join_splitAt ':' cs]
    rcases hparts with ⟨proto, hsplit, hproto⟩ | ⟨hsplit, hproto⟩
    · have hform : SpecForm q Host Guest _ := .named hproto hhost hguest
      simpa [hsplit, Text.join] using hform
    · have hform : SpecForm q Host Guest _ := .unnamed hproto hhost hguest
      simpa [hsplit, Text.join] using hform

end Sides

theorem specParts_eq_ok_iff {malformed : SpecError} {spec : String} {q : Protocol}
    {host guest : List Char} :
    specParts malformed spec = .ok (q, host, guest) ↔
      (∃ proto, Text.splitAt ':' (Text.trim spec.toList) = [proto, host, guest] ∧
        Text.Loose (ProtocolForm q) proto) ∨
      Text.splitAt ':' (Text.trim spec.toList) = [host, guest] ∧ q = .tcp := by
  unfold specParts
  split
  · next proto host' guest' hsplit =>
    rw [hsplit, Except.bind_eq_ok]
    constructor
    · rintro ⟨q', hproto, heq⟩
      cases heq
      exact .inl ⟨proto, rfl, Protocol.ofChars_eq_ok_iff.1 hproto⟩
    · rintro (⟨proto', hlist, hproto⟩ | ⟨hlist, -⟩)
      · cases hlist
        exact ⟨q, Protocol.ofChars_eq_ok_iff.2 hproto, rfl⟩
      · cases hlist
  · next host' guest' hsplit =>
    rw [hsplit]
    constructor
    · intro h
      cases h
      exact .inr ⟨rfl, rfl⟩
    · rintro (⟨proto, hlist, -⟩ | ⟨hlist, rfl⟩)
      · cases hlist
      · cases hlist
        rfl
  · next hthree htwo =>
    constructor
    · intro h
      cases h
    · rintro (⟨proto, hlist, -⟩ | ⟨hlist, -⟩)
      · exact absurd hlist (hthree proto host guest)
      · exact absurd hlist (htwo host guest)

theorem exists_specParts_iff {q : Protocol} {Host Guest : List Char → Prop}
    (hHost : SideForm Host) (hGuest : SideForm Guest) (malformed : SpecError) (spec : String) :
    (∃ host guest, specParts malformed spec = .ok (q, host, guest) ∧ Host host ∧ Guest guest) ↔
      Text.Loose (SpecForm q Host Guest) spec.toList := by
  rw [loose_specForm_iff hHost hGuest, specForm_iff_splitAt hHost hGuest]
  simp only [specParts_eq_ok_iff]

/-! ### Reading -/

/-- The reader of specifications, given how a side is read and what is made of the parts. -/
def readSides {α β : Type} (malformed : SpecError) (spec : String)
    (side : List Char → Except SpecError α) (make : Protocol → α → α → β) : Except SpecError β := do
  let (q, host, guest) ← specParts malformed spec
  return make q (← side host) (← side guest)

theorem Mapping.parse_eq_readSides (spec : String) :
    Mapping.parse spec = readSides (.notMapping spec) spec (readPort spec)
      fun q host guest => ⟨host, guest, q⟩ := rfl

theorem PortRange.parse_eq_readSides (spec : String) :
    PortRange.parse spec = readSides (.notRange spec) spec (readBounds spec)
      fun q host guest => ⟨guest.1, guest.2, host.1, host.2, q⟩ := rfl

theorem readSides_eq_ok_iff {α β : Type} {malformed : SpecError} {spec : String}
    {side : List Char → Except SpecError α} {make : Protocol → α → α → β}
    {Form : α → List Char → Prop} (hside : ∀ {part a}, side part = .ok a ↔ Form a part)
    (hform : ∀ a, SideForm (Form a)) {b : β} :
    readSides malformed spec side make = .ok b ↔ ∃ q host guest,
      Text.Loose (SpecForm q (Form host) (Form guest)) spec.toList ∧ make q host guest = b := by
  unfold readSides
  simp only [← exists_specParts_iff (hform _) (hform _) malformed, ← hside]
  constructor
  · intro h
    obtain ⟨⟨q, hostPart, guestPart⟩, hparts, h⟩ := Except.bind_eq_ok.1 h
    obtain ⟨host, hhost, h⟩ := Except.bind_eq_ok.1 h
    obtain ⟨guest, hguest, h⟩ := Except.bind_eq_ok.1 h
    exact ⟨q, host, guest, ⟨hostPart, guestPart, hparts, hhost, hguest⟩, Except.ok.inj h⟩
  · rintro ⟨q, host, guest, ⟨hostPart, guestPart, hparts, hhost, hguest⟩, rfl⟩
    refine Except.bind_eq_ok.2 ⟨_, hparts, ?_⟩
    refine Except.bind_eq_ok.2 ⟨_, hhost, ?_⟩
    exact Except.bind_eq_ok.2 ⟨_, hguest, rfl⟩

theorem Mapping.parse_eq_ok_iff {spec : String} {m : Mapping} :
    Mapping.parse spec = .ok m ↔ m.SpecText spec := by
  rw [parse_eq_readSides, readSides_eq_ok_iff readPort_eq_ok_iff sideForm_port]
  constructor
  · rintro ⟨q, host, guest, htext, rfl⟩
    exact htext
  · intro htext
    exact ⟨_, _, _, htext, rfl⟩

theorem PortRange.parse_eq_ok_iff {spec : String} {r : PortRange} :
    PortRange.parse spec = .ok r ↔ r.SpecText spec := by
  rw [parse_eq_readSides, readSides_eq_ok_iff readBounds_eq_ok_iff sideForm_bounds]
  constructor
  · rintro ⟨q, host, guest, htext, rfl⟩
    exact htext
  · intro htext
    exact ⟨_, _, _, htext, rfl⟩

/-! ### What is refused -/

/-- A reading of a specification that can only fail with an error that explains it. -/
def Explained {α : Type} (spec : String) (x : Except SpecError α) : Prop :=
  ∀ e, x = .error e → e.Explains spec

section Explained

variable {α β : Type} {spec : String}

theorem explained_ok (a : α) : Explained spec (.ok a) := by
  intro e he
  cases he

theorem Explained.bind {x : Except SpecError α} {f : α → Except SpecError β}
    (hx : Explained spec x) (hf : ∀ a, x = .ok a → Explained spec (f a)) :
    Explained spec (x >>= f) := by
  intro e he
  cases x with
  | error e' =>
    cases he
    exact hx _ rfl
  | ok a => exact hf a rfl e he

theorem explained_readPort {raw : List Char} (h : raw <:+: spec.toList) :
    Explained spec (readPort spec raw) := by
  intro e he
  have hnone : ∀ p, ¬Text.Loose (PortForm p) raw := by
    intro p hp
    rw [readPort_eq_ok_iff.2 hp] at he
    cases he
  unfold readPort at he
  split at he
  · cases he
  · cases he
    refine ⟨rfl, ?_, ?_⟩
    · rwa [String.toList_ofList]
    · rwa [String.toList_ofList]

theorem explained_readBounds {part : List Char} (h : part <:+: spec.toList) :
    Explained spec (readBounds spec part) := by
  unfold readBounds
  split
  · next start stop hcut =>
    obtain ⟨-, rfl⟩ := Text.cutAt_eq_some_iff.1 hcut
    have hstart : start <:+: start ++ '-' :: stop := (List.prefix_append _ _).isInfix
    have hstop : stop <:+: start ++ '-' :: stop :=
      ((List.suffix_cons '-' stop).trans (List.suffix_append _ _)).isInfix
    refine (explained_readPort (hstart.trans h)).bind fun first _ => ?_
    exact (explained_readPort (hstop.trans h)).bind fun last _ => explained_ok _
  · next hcut =>
    intro e he
    cases he
    refine ⟨rfl, ?_, ?_⟩
    · rwa [String.toList_ofList]
    · rw [String.toList_ofList]
      exact Text.cutAt_eq_none_iff.1 hcut

theorem explained_ofChars {proto rest : List Char}
    (h : Text.trim spec.toList = proto ++ ':' :: rest) : Explained spec (Protocol.ofChars proto) := by
  intro e he
  have hlower : Text.asciiLower = Char.toLower := funext Text.asciiLower_eq_toLower
  have hnone : ∀ q, ¬Text.Loose (ProtocolForm q) proto := by
    intro q hq
    rw [Protocol.ofChars_eq_ok_iff.2 hq] at he
    cases he
  unfold Protocol.ofChars at he
  simp only at he
  split at he
  · cases he
  · split at he
    · cases he
    · cases he
      refine ⟨proto, ?_, by rw [hlower], hnone⟩
      rw [h]
      exact ⟨rest, by simp⟩

theorem explained_specParts {malformed : SpecError}
    (hmalformed : spec.toList.count ':' ≠ 1 → spec.toList.count ':' ≠ 2 →
      malformed.Explains spec) : Explained spec (specParts malformed spec) := by
  have hlength := Text.length_splitAt ':' (Text.trim spec.toList)
  rw [Text.count_trim rfl] at hlength
  unfold specParts
  split
  · next proto host guest hsplit =>
    have hjoin := Text.join_splitAt ':' (Text.trim spec.toList)
    rw [hsplit] at hjoin
    have hproto : Text.trim spec.toList = proto ++ ':' :: (host ++ ':' :: guest) := by
      simpa [Text.join] using hjoin.symm
    exact (explained_ofChars hproto).bind fun q _ => explained_ok _
  · exact explained_ok _
  · next hthree htwo =>
    intro e he
    cases he
    refine hmalformed ?_ ?_
    · intro hcount
      rw [hcount] at hlength
      obtain ⟨host, guest, hsplit⟩ := List.length_eq_two.1 hlength
      exact htwo host guest hsplit
    · intro hcount
      rw [hcount] at hlength
      obtain ⟨proto, host, guest, hsplit⟩ := List.length_eq_three.1 hlength
      exact hthree proto host guest hsplit

theorem infix_of_specParts {malformed : SpecError} {q : Protocol} {host guest : List Char}
    (h : specParts malformed spec = .ok (q, host, guest)) :
    host <:+: spec.toList ∧ guest <:+: spec.toList := by
  have hpiece : ∀ piece ∈ Text.splitAt ':' (Text.trim spec.toList), piece <:+: spec.toList :=
    fun piece hmem => (Text.infix_of_mem_splitAt hmem).trans (Text.trim_infix _)
  rcases specParts_eq_ok_iff.1 h with ⟨proto, hsplit, -⟩ | ⟨hsplit, -⟩
  · rw [hsplit] at hpiece
    exact ⟨hpiece host (by simp), hpiece guest (by simp)⟩
  · rw [hsplit] at hpiece
    exact ⟨hpiece host (by simp), hpiece guest (by simp)⟩

theorem explained_readSides {malformed : SpecError}
    {side : List Char → Except SpecError α} {make : Protocol → α → α → β}
    (hmalformed : spec.toList.count ':' ≠ 1 → spec.toList.count ':' ≠ 2 →
      malformed.Explains spec)
    (hside : ∀ {part}, part <:+: spec.toList → Explained spec (side part)) :
    Explained spec (readSides malformed spec side make) := by
  unfold readSides
  refine (explained_specParts hmalformed).bind ?_
  rintro ⟨q, hostPart, guestPart⟩ hparts
  obtain ⟨hhost, hguest⟩ := infix_of_specParts hparts
  refine (hside hhost).bind fun host _ => ?_
  exact (hside hguest).bind fun guest _ => explained_ok _

theorem Mapping.explained_parse (spec : String) : Explained spec (Mapping.parse spec) := by
  rw [parse_eq_readSides]
  exact explained_readSides (fun hone htwo => ⟨rfl, hone, htwo⟩) explained_readPort

theorem PortRange.explained_parse (spec : String) : Explained spec (PortRange.parse spec) := by
  rw [parse_eq_readSides]
  exact explained_readSides (fun hone htwo => ⟨rfl, hone, htwo⟩) explained_readBounds

end Explained

/-! ### Mappings and ranges -/

theorem Mapping.SpecText.hyphen {m : Mapping} {s : String} (h : m.SpecText s) :
    '-' ∉ s.toList := by
  have hprotocol : ∀ {q cs}, Text.Loose (ProtocolForm q) cs → '-' ∉ cs := by
    intro q cs h
    refine h.notMem rfl fun hcore => hcore.notMem ?_
    cases q <;> decide
  have hport : ∀ {p cs}, Text.Loose (PortForm p) cs → '-' ∉ cs := fun h =>
    h.notMem rfl fun hcore => hcore.notMem (by decide) rfl
  refine Text.Loose.notMem h rfl fun hcore => ?_
  cases hcore with
  | named hproto hhost hguest => simp [hprotocol hproto, hport hhost, hport hguest]
  | unnamed hproto hhost hguest => simp [hport hhost, hport hguest]

theorem PortRange.SpecText.hyphen {r : PortRange} {s : String} (h : r.SpecText s) :
    '-' ∈ s.toList := by
  obtain ⟨front, core, back, -, -, hcore, hs⟩ := h
  rw [hs]
  cases hcore with
  | named hproto hhost hguest =>
    obtain ⟨first, last, -, -, rfl⟩ := hhost
    simp
  | unnamed hproto hhost hguest =>
    obtain ⟨first, last, -, -, rfl⟩ := hhost
    simp

/-! ### Plain specifications -/

/-- A mapping as it is written with its protocol and without anything that need not be there. -/
def Mapping.spec (m : Mapping) : String :=
  m.protocol.word ++ ":" ++ portText m.hostPort ++ ":" ++ portText m.vmPort

def PortRange.spec (r : PortRange) : String :=
  r.protocol.word ++ ":" ++ portText r.hostStart ++ "-" ++ portText r.hostEnd ++ ":"
    ++ portText r.vmStart ++ "-" ++ portText r.vmEnd

theorem boundsForm_digits (first last : Port) :
    BoundsForm (first, last) (Text.digits first.toNat ++ '-' :: Text.digits last.toNat) :=
  ⟨_, _, .self (portForm_digits first), .self (portForm_digits last), rfl⟩

theorem Mapping.specText_spec (m : Mapping) : m.SpecText m.spec := by
  have hspec : m.spec.toList = m.protocol.word.toList ++ ':' ::
      (Text.digits m.hostPort.toNat ++ ':' :: Text.digits m.vmPort.toNat) := by
    simp [spec, portText]
  unfold SpecText
  rw [hspec]
  exact .self (.named (.self (protocolForm_word _)) (.self (portForm_digits _))
    (.self (portForm_digits _)))

theorem PortRange.specText_spec (r : PortRange) : r.SpecText r.spec := by
  have hspec : r.spec.toList = r.protocol.word.toList ++ ':' ::
      ((Text.digits r.hostStart.toNat ++ '-' :: Text.digits r.hostEnd.toNat) ++ ':' ::
        (Text.digits r.vmStart.toNat ++ '-' :: Text.digits r.vmEnd.toNat)) := by
    simp [spec, portText]
  unfold SpecText
  rw [hspec]
  exact .self (.named (.self (protocolForm_word _)) (boundsForm_digits _ _)
    (boundsForm_digits _ _))

/-! ### The readers -/

/-- What a reader has to do with a grammar: accept just its texts, each for what it says, tell
    what is wrong with every other text, and accept plain specifications. -/
structure ReadsBy {α : Type} (read : String → Except SpecError α) (SpecText : α → String → Prop)
    (plain : α → String) : Prop where
  reads : ∀ s a, read s = .ok a ↔ SpecText a s
  refuses : ∀ s, (∃ a, SpecText a s) ∨ ∃ e, read s = .error e ∧ e.Explains s ∧
    ∃ reason, e.message = "Invalid port specification: " ++ reason
  reads_plain : ∀ a, read (plain a) = .ok a

theorem readsBy_of {α : Type} {read : String → Except SpecError α} {SpecText : α → String → Prop}
    {plain : α → String} (hread : ∀ {s a}, read s = .ok a ↔ SpecText a s)
    (hexplained : ∀ s, Explained s (read s)) (hplain : ∀ a, SpecText a (plain a)) :
    ReadsBy read SpecText plain where
  reads := fun s a => hread
  refuses := by
    intro s
    cases h : read s with
    | ok a => exact .inl ⟨a, hread.1 h⟩
    | error e => exact .inr ⟨e, rfl, hexplained s e h, _, rfl⟩
  reads_plain := fun a => hread.2 (hplain a)

/-- **Port specifications have one grammar**: mappings and ranges are read by it, everything
    else is refused with a reason, and no text is both. -/
theorem specs_have_one_grammar :
    ReadsBy Mapping.parse Mapping.SpecText Mapping.spec ∧
      ReadsBy PortRange.parse PortRange.SpecText PortRange.spec ∧
      ∀ s, ¬((∃ m, Mapping.parse s = .ok m) ∧ ∃ r, PortRange.parse s = .ok r) := by
  refine ⟨readsBy_of Mapping.parse_eq_ok_iff Mapping.explained_parse Mapping.specText_spec,
    readsBy_of PortRange.parse_eq_ok_iff PortRange.explained_parse PortRange.specText_spec, ?_⟩
  rintro s ⟨⟨m, hm⟩, r, hr⟩
  have hnone := (Mapping.parse_eq_ok_iff.1 hm).hyphen
  exact hnone (PortRange.parse_eq_ok_iff.1 hr).hyphen

/-- Blanks of all kinds in all places, capital letters, a sign and zeros in front. -/
example : Mapping.parse "\u2003TCP\u00a0: +080\t:\u300000443\n" = .ok ⟨80, 443, .tcp⟩ := by
  decide +kernel

end GuestPorts
