/-
  GuestPorts/Proofs/Perimeter/Reach.lean
  ======================================
  **Which packets the lines of the managed block send to the guest.**

  A line is read as the restoring tool of the packet filter reads it: it is cut into words,
  quotes keep blanks inside a word, and what follows the chain are the arguments of a rule.
  A line says the same as the rule of the guest's ingress chain less two criteria: it asks
  neither where a packet goes to nor where it comes from.  So the lines rewrite every packet
  that the chain rewrites, and others (`chain_rewrites_iff`).
-/
import GuestPorts.Perimeter.Block
import GuestPorts.Proofs.Batch.Meaning
import GuestPorts.Proofs.Chain.Usable

namespace GuestPorts.Perimeter

/-! ### Reading a line -/

/-- Where in a line a reader is. -/
inductive Quoting where
  | outside
  | inside
  /-- Inside quotes behind a backslash. -/
  | escaped
  deriving DecidableEq, Repr

def isGap (c : Char) : Bool := c = ' ' || c = '\t' || c = '\n'

/-- The words of the rest of a line behind the beginning of a word.  A closing quote ends its
    word. -/
def wordsFrom : Quoting → List Char → List Char → List (List Char)
  | _, word, [] => if word.isEmpty then [] else [word]
  | .outside, word, c :: r =>
    if c = '"' then wordsFrom .inside word r
    else if isGap c then
      if word.isEmpty then wordsFrom .outside [] r else word :: wordsFrom .outside [] r
    else wordsFrom .outside (word ++ [c]) r
  | .inside, word, c :: r =>
    if c = '\\' then wordsFrom .escaped word r
    else if c = '"' then word :: wordsFrom .outside [] r
    else wordsFrom .inside (word ++ [c]) r
  | .escaped, word, c :: r => wordsFrom .inside (word ++ [c]) r

def words (line : String) : List String := (wordsFrom .outside [] line.toList).map String.ofList

/-- The rule that a line adds to the built-in chain of arriving packets. -/
def ruleOfLine? (line : String) : Option PacketRule :=
  match words line with
  | option :: chain :: args =>
    if option = "-A" ∧ chain = "PREROUTING" then PacketRule.ofArgs? args else none
  | _ => none

/-- A character that stands for itself in quotes and does not end the line. -/
def Quotable (c : Char) : Prop := c ≠ '"' ∧ c ≠ '\\' ∧ c ≠ '\n'

/-- A character that stands for itself outside quotes as well. -/
def Plain (c : Char) : Prop := Quotable c ∧ c ≠ ' ' ∧ c ≠ '\t'

instance (c : Char) : Decidable (Quotable c) :=
  inferInstanceAs (Decidable (c ≠ '"' ∧ c ≠ '\\' ∧ c ≠ '\n'))

instance (c : Char) : Decidable (Plain c) :=
  inferInstanceAs (Decidable (Quotable c ∧ c ≠ ' ' ∧ c ≠ '\t'))

theorem wordsFrom_plain (front : List Char) {word : List Char} (h : ∀ c ∈ word, Plain c)
    (hne : front ++ word ≠ []) (rest : List Char) :
    wordsFrom .outside front (word ++ ' ' :: rest)
      = (front ++ word) :: wordsFrom .outside [] rest := by
  induction word generalizing front with
  | nil =>
    rw [List.append_nil] at hne
    simp [wordsFrom, isGap, hne]
  | cons c r ih =>
    obtain ⟨⟨hquote, -, hfeed⟩, hblank, htab⟩ := h c List.mem_cons_self
    have hrest := ih (front ++ [c]) (fun x hx => h x (List.mem_cons_of_mem c hx)) (by simp)
    rw [List.append_assoc, List.singleton_append] at hrest
    simp [wordsFrom, isGap, hquote, hfeed, hblank, htab, hrest]

theorem wordsFrom_quoted (front : List Char) {note : List Char} (h : ∀ c ∈ note, Quotable c)
    (rest : List Char) :
    wordsFrom .inside front (note ++ '"' :: rest)
      = (front ++ note) :: wordsFrom .outside [] rest := by
  induction note generalizing front with
  | nil => simp [wordsFrom]
  | cons c r ih =>
    obtain ⟨hquote, hbackslash, -⟩ := h c List.mem_cons_self
    have hrest := ih (front ++ [c]) fun x hx => h x (List.mem_cons_of_mem c hx)
    rw [List.append_assoc, List.singleton_append] at hrest
    simp [wordsFrom, hquote, hbackslash, hrest]

/-- Words with a blank behind each, and a note in quotes at the end. -/
def lineOf (ws : List String) (note : String) : List Char :=
  (ws.flatMap fun w => w.toList ++ [' ']) ++ '"' :: (note.toList ++ ['"'])

theorem wordsFrom_lineOf {ws : List String} {note : String}
    (hws : ∀ w ∈ ws, w ≠ "" ∧ ∀ c ∈ w.toList, Plain c)
    (hnote : ∀ c ∈ note.toList, Quotable c) :
    wordsFrom .outside [] (lineOf ws note) = (ws ++ [note]).map String.toList := by
  unfold lineOf
  induction ws with
  | nil => simpa [wordsFrom] using wordsFrom_quoted [] hnote []
  | cons w rest ih =>
    obtain ⟨hne, hplain⟩ := hws w List.mem_cons_self
    have hrest := ih fun x hx => hws x (List.mem_cons_of_mem w hx)
    rw [List.flatMap_cons, List.append_assoc, List.append_assoc, List.singleton_append,
      wordsFrom_plain [] hplain (by simpa using hne), hrest]
    rfl

/-! ### The lines of a declaration -/

def ruleWords (protocol : Protocol) (hostPorts : String) (guest : Address) (guestPorts : String) :
    List String :=
  ["-A", "PREROUTING", "-p", protocol.word, "--dport", hostPorts, "-j", "DNAT",
    "--to-destination", guest.text ++ ":" ++ guestPorts, "-m", "comment", "--comment"]

theorem toList_ruleLine (protocol : Protocol) (hostPorts : String) (guest : Address)
    (guestPorts note : String) : (ruleLine protocol hostPorts guest guestPorts note).toList
      = lineOf (ruleWords protocol hostPorts guest guestPorts) (unquoted note) := by
  unfold ruleLine lineOf ruleWords
  simp only [String.toList_append, List.flatMap_cons, List.flatMap_nil, List.append_assoc,
    List.append_nil]
  simp

def lineWords (guest : Address) (f : Forward) : List String :=
  ["-A", "PREROUTING", "-p", f.protocol.word, "--dport", f.host.asMatch, "-j", "DNAT",
    "--to-destination", guest.text ++ ":" ++ f.guest.asTarget, "-m", "comment", "--comment"]

theorem toList_ruleFor (vmName : String) (guest : Address) (f : Forward) :
    (ruleFor vmName guest f).toList
      = lineOf (lineWords guest f) (unquoted (note vmName f)) :=
  toList_ruleLine f.protocol f.host.asMatch guest f.guest.asTarget (note vmName f)

theorem plain_of_isDigit {c : Char} (h : Text.isDigit c = true) : Plain c := by
  have hne : ∀ x : Char, Text.isDigit x = false → c ≠ x := by
    rintro x hx rfl
    rw [h] at hx
    cases hx
  exact ⟨⟨hne _ (by decide), hne _ (by decide), hne _ (by decide)⟩, hne _ (by decide),
    hne _ (by decide)⟩

theorem plain_of_mem_digits {n : Nat} {c : Char} (h : c ∈ Text.digits n) : Plain c :=
  plain_of_isDigit (List.all_eq_true.1 (Text.all_isDigit_digits n) c h)

theorem plain_of_mem_span {sep : Char} (hsep : Plain sep) {m n : Nat} {c : Char}
    (h : c ∈ Text.digits m ++ sep :: Text.digits n) : Plain c := by
  rcases List.mem_append.1 h with h | h
  · exact plain_of_mem_digits h
  · rcases List.mem_cons.1 h with rfl | h
    · exact hsep
    · exact plain_of_mem_digits h

theorem plain_of_mem_asMatch {ports : Ports} {c : Char} (h : c ∈ ports.asMatch.toList) :
    Plain c := by
  rw [Ports.toList_asMatch] at h
  cases ports with
  | single p => exact plain_of_mem_digits h
  | span first last => exact plain_of_mem_span (by decide) h

theorem plain_of_mem_asTarget {ports : Ports} {c : Char} (h : c ∈ ports.asTarget.toList) :
    Plain c := by
  rw [Ports.toList_asTarget] at h
  cases ports with
  | single p => exact plain_of_mem_digits h
  | span first last => exact plain_of_mem_span (by decide) h

theorem plain_of_mem_text {ip : Address} {c : Char} (h : c ∈ ip.text.toList) : Plain c := by
  rw [Address.text, String.toList_ofList] at h
  rcases ip.eq_or_isDigit_of_mem_toChars h with rfl | h
  · decide
  · exact plain_of_isDigit h

theorem ne_empty_asMatch (ports : Ports) : ports.asMatch ≠ "" := by
  intro h
  have hnil := congrArg String.toList h
  rw [Ports.toList_asMatch] at hnil
  cases ports with
  | single p => exact Text.digits_ne_nil _ hnil
  | span first last => exact absurd hnil (by simp)

theorem plain_lineWords (guest : Address) (f : Forward) :
    ∀ w ∈ lineWords guest f, w ≠ "" ∧ ∀ c ∈ w.toList, Plain c := by
  have hprotocol : f.protocol.word ≠ "" ∧ ∀ c ∈ f.protocol.word.toList, Plain c := by
    cases f.protocol <;> simp [Protocol.word, Plain, Quotable]
  have hendpoint : ∀ c ∈ (guest.text ++ ":" ++ f.guest.asTarget).toList, Plain c := by
    intro c hc
    simp only [String.toList_append, List.mem_append] at hc
    rcases hc with (hc | hc) | hc
    · exact plain_of_mem_text hc
    · obtain rfl : c = ':' := by simpa using hc
      decide
    · exact plain_of_mem_asTarget hc
  have hmatch : f.host.asMatch ≠ "" ∧ ∀ c ∈ f.host.asMatch.toList, Plain c :=
    ⟨ne_empty_asMatch f.host, fun c hc => plain_of_mem_asMatch hc⟩
  simp only [lineWords, List.forall_mem_cons]
  have hfixed : ∀ w ∈ ["-A", "PREROUTING", "-p", "--dport", "-j", "DNAT", "--to-destination",
      "-m", "comment", "--comment"], w ≠ "" ∧ ∀ c ∈ w.toList, Plain c := by
    simp [Plain, Quotable]
  simp only [List.forall_mem_cons] at hfixed
  obtain ⟨happend, hchain, hp, hdport, hj, hdnat, hto, hm, hcomment, hnote, -⟩ := hfixed
  exact ⟨happend, hchain, hp, hprotocol, hdport, hmatch, hj, hdnat, hto,
    ⟨by simp, hendpoint⟩, hm, hcomment, hnote, nofun⟩

/-- Taking the quotes out of a note brings an apostrophe in and nothing else. -/
theorem mem_unquoted {text : String} {c : Char} (h : c ∈ (unquoted text).toList) :
    c ≠ '"' ∧ (c = '\'' ∨ c ∈ text.toList) := by
  rw [unquoted, String.toList_ofList] at h
  obtain ⟨x, hx, rfl⟩ := List.mem_map.1 h
  by_cases hquote : x = '"'
  · rw [if_pos hquote]
    exact ⟨by decide, .inl rfl⟩
  · rw [if_neg hquote]
    exact ⟨hquote, .inr hx⟩

theorem plain_of_allowed {c : Char} (h : Role.Allowed c) : Plain c := by
  have hne : ∀ x : Char, Role.refuses x = true → c ≠ x := by
    rintro x hx rfl
    exact Role.refuses_iff.1 hx h
  exact ⟨⟨hne _ (by decide), hne _ (by decide), hne _ (by decide)⟩, hne _ (by decide),
    hne _ (by decide)⟩

theorem plain_of_checkName {vmName : String} (h : Role.checkName vmName = .ok ()) {c : Char}
    (hc : c ∈ vmName.toList) : Plain c :=
  plain_of_allowed ((Role.checkName_eq_ok_iff.1 h).2 c hc)

theorem quotable_of_mem_note {vmName : String} (hname : Role.checkName vmName = .ok ())
    {f : Forward} {c : Char} (h : c ∈ (unquoted (note vmName f)).toList) : Quotable c := by
  obtain ⟨hquote, rfl | hc⟩ := mem_unquoted h
  · decide
  have hfixed : ∀ c ∈ "kvmfwd ".toList ++ " host ".toList ++ " to vm ".toList, Quotable c := by
    simp [Quotable]
  simp only [note, String.toList_append, List.mem_append] at hc hfixed
  rcases hc with ((((hc | hc) | hc) | hc) | hc) | hc
  · exact hfixed c (.inl (.inl hc))
  · exact (plain_of_checkName hname hc).1
  · exact hfixed c (.inl (.inr hc))
  · exact (plain_of_mem_asTarget hc).1
  · exact hfixed c (.inr hc)
  · exact (plain_of_mem_asTarget hc).1

theorem words_ruleFor {vmName : String} (hname : Role.checkName vmName = .ok ())
    (guest : Address) (f : Forward) :
    words (ruleFor vmName guest f) = lineWords guest f ++ [unquoted (note vmName f)] := by
  unfold words
  rw [toList_ruleFor, wordsFrom_lineOf (plain_lineWords guest f) fun c => quotable_of_mem_note hname]
  simp

def lineReading (guest : Address) (f : Forward) : PacketRule where
  criteria := { protocol := f.protocol, ports := f.host }
  target := .rewriteDestination guest f.guest

theorem ofArgs?_line (guest : Address) (f : Forward) (comment : String) :
    PacketRule.ofArgs? ["-p", f.protocol.word, "--dport", f.host.asMatch, "-j", "DNAT",
      "--to-destination", guest.text ++ ":" ++ f.guest.asTarget, "-m", "comment", "--comment",
      comment] = some (lineReading guest f) := by
  have hprotocol : Draft.accept {} "-p" f.protocol.word = some { protocol := f.protocol } := by
    simp [Draft.accept, Draft.once]
  have hports : Draft.accept { protocol := f.protocol } "--dport" f.host.asMatch
      = some { protocol := f.protocol, ports := f.host } := by
    simp [Draft.accept, Draft.once]
  have hjump : Draft.accept { protocol := f.protocol, ports := f.host } "-j" "DNAT"
      = some { protocol := f.protocol, ports := f.host, jump := "DNAT" } := by
    simp [Draft.accept, Draft.once]
  have htarget : Draft.accept { protocol := f.protocol, ports := f.host, jump := "DNAT" }
      "--to-destination" (guest.text ++ ":" ++ f.guest.asTarget)
      = some { protocol := f.protocol, ports := f.host, jump := "DNAT",
               toDestination := some (guest, f.guest) } := by
    simp [Draft.accept, Draft.once]
  have hcomment : ∀ r : Draft, r.read ["-m", "comment", "--comment", comment] = some r := by
    intro r
    simp [Draft.read, Draft.accept]
  unfold PacketRule.ofArgs?
  rw [Draft.read, hprotocol, Option.bind_some, Draft.read, hports, Option.bind_some, Draft.read,
    hjump, Option.bind_some, Draft.read, htarget, Option.bind_some, hcomment]
  rfl

theorem ruleOfLine?_ruleFor {vmName : String} (hname : Role.checkName vmName = .ok ())
    (guest : Address) (f : Forward) :
    ruleOfLine? (ruleFor vmName guest f) = some (lineReading guest f) := by
  unfold ruleOfLine?
  rw [words_ruleFor hname]
  simp only [lineWords, List.cons_append, List.nil_append, and_self, if_true]
  exact ofArgs?_line guest f _

/-! ### Lines and chain -/

open Batch.Plan in
/-- A forward's line and its rule in the ingress chain rewrite the same packets, as far as these
    come to the host from where they may come from. -/
theorem rewrites_ingressReading_iff {p : Batch.Plan} {f : Forward} {takes : String → String → Bool}
    {x : Packet} : (p.ingressReading f).Rewrites takes x ↔
      (lineReading p.guest f).Rewrites takes x ∧ x.destination = p.host ∧
        ∀ ip ∈ p.source, x.source = ip := by
  have hline : (lineReading p.guest f).criteria.Matches takes x ↔
      f.protocol.number = x.protocol ∧ f.host.covers x.port := by
    simp [Criteria.Matches, lineReading, eq_comm (a := x.protocol)]
  constructor
  · rintro ⟨hmatches, -⟩
    obtain ⟨hfrom, hforward⟩ := matches_ingressReading.1 hmatches
    exact ⟨⟨hline.2 hforward, _, _, rfl⟩, hfrom⟩
  · rintro ⟨⟨hmatches, -⟩, hfrom⟩
    exact ⟨matches_ingressReading.2 ⟨hfrom, hline.1 hmatches⟩, _, _, rfl⟩

/-- **A line of the managed block and the ingress chain** rewrite the same packets among those
    that go to the host and come from where the declaration allows; no other packet is rewritten
    by the chain. -/
theorem chain_rewrites_iff {d : Declaration} {vmName : String} {cs : Chains}
    {host guest : Address} (hcs : Chains.ofGuest vmName = .ok cs)
    (hd : d.Addressed vmName host guest) :
    ∃ batch ingress lines block, d.compile .start = .ok batch ∧
      (batch.appended .nat cs.ingress.name).mapM PacketRule.ofArgs? = some ingress ∧
      rules d = .ok lines ∧ lines.mapM ruleOfLine? = some block ∧
      ∀ takes x, (∃ r ∈ ingress, r.Rewrites takes x) ↔
        (∃ r ∈ block, r.Rewrites takes x) ∧ x.destination = host ∧
          ∀ ip ∈ d.externalIp, x.source = ip := by
  have hp : (d.planFor cs host guest).chains.Proper := Chains.proper_of_ofGuest hcs
  have hlines : rules d = .ok (d.forwards.map (ruleFor vmName guest)) := by
    unfold rules
    rw [hd.privateIp_eq, hd.vmName_eq]
  have hread := mapM_map_eq_some fun f (_ : f ∈ d.forwards) =>
    ruleOfLine?_ruleFor (Chains.checkName_of_ofGuest hcs) guest f
  refine ⟨_, _, _, _, Declaration.compile_of_plan (hd.plan_eq hcs) .start,
    Batch.Plan.mapM_ofArgs?_ingress hp, hlines, hread, ?_⟩
  intro takes x
  simp only [List.mem_map, exists_exists_and_eq_and]
  constructor
  · rintro ⟨f, hf, hrewrites⟩
    obtain ⟨hline, hfrom⟩ := rewrites_ingressReading_iff.1 hrewrites
    exact ⟨⟨f, hf, hline⟩, hfrom⟩
  · rintro ⟨⟨f, hf, hline⟩, hfrom⟩
    exact ⟨f, hf, rewrites_ingressReading_iff.2 ⟨hline, hfrom⟩⟩

/-- A guest for one client. -/
def guarded : Declaration :=
  { Declaration.spark ⟨192, 168, 1, 194⟩ with externalIp := some ⟨203, 0, 113, 7⟩ }

theorem rules_guarded :
    rules guarded = .ok [ruleFor "spark" ⟨192, 168, 122, 101⟩ ⟨.tcp, .single 1100, .single 3000⟩] :=
  rfl

/-- The chain rewrites the client's packet because the line does. -/
theorem chain_rewrites_guarded :
    Chains.ofGuest "spark" = .ok (Chains.named "spark") ∧
      guarded.Addressed "spark" ⟨192, 168, 1, 194⟩ ⟨192, 168, 122, 101⟩ ∧
      ∃ batch ingress, guarded.compile .start = .ok batch ∧
        (batch.appended .nat (Chains.named "spark").ingress.name).mapM PacketRule.ofArgs?
          = some ingress ∧
        ∃ r ∈ ingress, r.Rewrites (· == ·) (.toHost 1100) := by
  have haddr : guarded.Addressed "spark" ⟨192, 168, 1, 194⟩ ⟨192, 168, 122, 101⟩ := ⟨rfl, rfl, rfl⟩
  obtain ⟨batch, ingress, lines, block, hbatch, hingress, hlines, hblock, hiff⟩ :=
    chain_rewrites_iff Chains.ofGuest_spark haddr
  refine ⟨Chains.ofGuest_spark, haddr, batch, ingress, hbatch, hingress, ?_⟩
  rw [rules_guarded] at hlines
  cases hlines
  rw [List.mapM_cons, ruleOfLine?_ruleFor rfl] at hblock
  cases hblock
  refine (hiff _ _).2 ⟨⟨_, List.mem_singleton_self _, ?_, _, _, rfl⟩, rfl, ?_⟩
  · decide
  · intro ip hip
    exact Option.some_inj.1 hip

/-- **The line does not ask where a packet comes from**: it rewrites one of another client, and
    no rule of the chain matches that packet. -/
theorem line_rewrites_another_client :
    let x : Packet := { Packet.toHost 1100 with source := ⟨198, 51, 100, 9⟩ }
    (∃ lines block, rules guarded = .ok lines ∧ lines.mapM ruleOfLine? = some block ∧
      ∃ r ∈ block, r.Rewrites (· == ·) x) ∧
    ∃ batch ingress, guarded.compile .start = .ok batch ∧
      (batch.appended .nat (Chains.named "spark").ingress.name).mapM PacketRule.ofArgs?
        = some ingress ∧
      ∀ r ∈ ingress, ¬r.criteria.Matches (· == ·) x := by
  intro x
  have haddr : guarded.Addressed "spark" ⟨192, 168, 1, 194⟩ ⟨192, 168, 122, 101⟩ := ⟨rfl, rfl, rfl⟩
  constructor
  · refine ⟨_, [lineReading ⟨192, 168, 122, 101⟩ ⟨.tcp, .single 1100, .single 3000⟩],
      rules_guarded, ?_, _, List.mem_singleton_self _, ?_, _, _, rfl⟩
    · rw [List.mapM_cons, ruleOfLine?_ruleFor rfl]
      rfl
    · decide
  · refine ⟨_, _, Declaration.compile_of_plan (haddr.plan_eq Chains.ofGuest_spark) .start,
      Batch.Plan.mapM_ofArgs?_ingress (Chains.proper_named "spark"), ?_⟩
    decide

end GuestPorts.Perimeter
