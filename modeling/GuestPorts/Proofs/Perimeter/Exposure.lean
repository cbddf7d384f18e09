/-
  GuestPorts/Proofs/Perimeter/Exposure.lean
  =========================================
  **What a guest's rules come to when the block is switched on first.**

  Switching on leaves a text with a block a text with a block, and then every rule of the
  guest finds its place in it (`Service.run_expose`).  Whether it is in force there hangs on
  the lines that the operator has in the block: while one of them is plain, the added rules
  are plain too; a block without any counts as off, and the rules that are added to it are
  comments (`Service.enabled_block_exposes`).
-/
import GuestPorts.Proofs.Perimeter.Insertion
import GuestPorts.Proofs.Perimeter.Listing

namespace GuestPorts.Perimeter

namespace Block

variable {line : Line} {text : List Char} {found : Located}

/-- Switching on leaves the opening sentinel where it is, and a line that closes the block. -/
theorem exists_locate_setCommented_false (h : Block.usual.locate (Text.lines text) = some found) :
    ∃ now, Block.usual.locate (Text.lines (Block.usual.setCommented false text)) = some now :=
  ⟨_, locate_setCommented_false h⟩

/-! ### The lines of a guest among others -/

variable {rule : Line}

theorem matchesRule_iff (h : Text.trim rule = rule) : Block.usual.matchesRule rule line = true ↔
    Text.trim line = rule ∨ Text.trim line = '#' :: ' ' :: rule := by
  change (Text.trim line == Text.trim rule || Text.trim line == '#' :: ' ' :: Text.trim rule) = true
    ↔ _
  simp [h]

/-- In a block that is on a rule stands plain, unless its commented form was there. -/
theorem stands_of_on {inside rules : List Line} (hon : isOff inside = false)
    (hrules : ∀ rule ∈ rules, IsRule rule) (h : rule ∈ rules) :
    (∃ line ∈ rules.foldl insertRule inside, Text.trim line = rule) ∨
      ∃ line ∈ inside, Text.trim line = '#' :: ' ' :: rule := by
  obtain ⟨line, hline, hmatches⟩ := exists_matchesRule_foldl_insertRule hrules h inside
  rcases (matchesRule_iff (hrules rule h).trimmed).1 hmatches with hplain | hcomment
  · exact .inl ⟨line, hline, hplain⟩
  · rcases mem_of_mem_foldl_insertRule hrules hline with hold | ⟨other, hother, rfl⟩
    · exact .inr ⟨line, hold, hcomment⟩
    · -- an added line is plain
      rw [hon, Bool.not_false, shown_true] at hcomment
      exact absurd hcomment ((hrules other hother).tidy.trim_ne_comment _)

theorem isOff_of_blank {inside : List Line} (h : ∀ line ∈ inside, Text.trim line = []) :
    isOff inside = true := by
  rw [isOff_eq_true_iff]
  intro line hline hne
  exact absurd (h line hline) hne

/-- In a block of blank lines a rule stands as a comment. -/
theorem stands_of_blank {inside rules : List Line} (hblank : ∀ line ∈ inside, Text.trim line = [])
    (hrules : ∀ rule ∈ rules, IsRule rule) (h : rule ∈ rules) :
    '#' :: ' ' :: rule ∈ rules.foldl insertRule inside := by
  have hoff := isOff_of_blank hblank
  obtain ⟨line, hline, hmatches⟩ := exists_matchesRule_foldl_insertRule hrules h inside
  have hmatches := (matchesRule_iff (hrules rule h).trimmed).1 hmatches
  rcases mem_of_mem_foldl_insertRule hrules hline with hold | ⟨other, hother, rfl⟩
  · simp [hblank line hold, (hrules rule h).filled.symm] at hmatches
  · have hrule := hrules other hother
    rw [hoff, Bool.not_true, hrule.tidy.trim_shown_false hrule.trim_ne_nil, hrule.trimmed]
      at hmatches
    rw [hoff, Bool.not_true, shown_false hrule.trim_ne_nil] at hline
    rcases hmatches with hplain | hcomment
    · exact absurd ((hrules rule h).trimmed.trans hplain.symm)
        ((hrules rule h).tidy.trim_ne_comment _)
    · rwa [hcomment] at hline

/-- A line that holds a rule has the rule's text in it, whether it is plain or commented. -/
theorem infix_of_matchesRule (hrule : IsRule rule)
    (h : Block.usual.matchesRule rule line = true) : rule <:+: Text.trim line := by
  rcases (matchesRule_iff hrule.trimmed).1 h with hplain | hcomment
  · rw [hplain]
  · rw [hcomment]
    exact ⟨['#', ' '], [], by simp⟩

theorem isCommented_of_locate (h : Block.usual.locate (Text.lines text) = some found) :
    Block.usual.isCommented text = isOff found.inside := by
  simp only [isCommented, h]
  rfl

theorem isExposed_of_locate (h : Block.usual.locate (Text.lines text) = some found)
    (ip : Address) : Block.usual.isExposed ip text = true ↔ isOff found.inside = false ∧
      ∃ line ∈ found.inside, Text.trim line ≠ [] ∧ ip.toChars ++ [':'] <:+: line := by
  simp [isExposed, isCommented_of_locate h, filledLines, h, Located.filled, Text.hasPart_iff_infix]

end Block

/-! ### What the status tells of the lines -/

namespace Block

theorem active_status_iff {t : String} {found : Located}
    (h : Block.usual.locate (Text.lines t.toList) = some found) :
    (Block.usual.status t).active = true ↔ isOff found.inside = false := by
  simp [status, isCommented_of_locate h]

theorem mem_rules_status {t : String} {found : Located}
    (h : Block.usual.locate (Text.lines t.toList) = some found) {line : String} :
    line ∈ (Block.usual.status t).rules ↔
      line.toList ∈ found.inside ∧ Text.trim line.toList ≠ [] := by
  simp only [status, filledLines, h, Located.filled, List.mem_map, List.mem_filter]
  constructor
  · rintro ⟨x, ⟨hx, hfilled⟩, rfl⟩
    simpa [hx] using hfilled
  · rintro ⟨hline, hfilled⟩
    exact ⟨line.toList, ⟨hline, by simpa using hfilled⟩, String.ofList_toList⟩

theorem exists_trimmed_iff {t : String} {found : Located}
    (h : Block.usual.locate (Text.lines t.toList) = some found) {word : String} (hne : word ≠ "") :
    (∃ line ∈ (Block.usual.status t).rules, Text.trimmed line = word) ↔
      ∃ line ∈ found.inside, Text.trim line = word.toList := by
  constructor
  · rintro ⟨line, hline, rfl⟩
    exact ⟨line.toList, ((mem_rules_status h).1 hline).1, by simp⟩
  · rintro ⟨line, hline, htrim⟩
    refine ⟨String.ofList line, (mem_rules_status h).2 ?_, ?_⟩
    · simpa [htrim, hne] using hline
    · simp [Text.trimmed, htrim]

theorem blank_of_rules_status {t : String} {found : Located}
    (h : Block.usual.locate (Text.lines t.toList) = some found)
    (hempty : (Block.usual.status t).rules = []) : ∀ line ∈ found.inside, Text.trim line = [] := by
  intro line hline
  by_contra hfilled
  have hmem : String.ofList line ∈ (Block.usual.status t).rules :=
    (mem_rules_status h).2 (by simpa [hline] using hfilled)
  rw [hempty] at hmem
  cases hmem

end Block

/-! ### The lines of a guest -/

theorem rules_of_privateIp {d : Declaration} {guest : Address} (h : d.privateIp = some guest) :
    rules d = .ok (d.forwards.map (ruleFor d.vmName guest)) := by
  simp [rules, h]

theorem mem_ruleLines_iff {d : Declaration} {rs : List String} (h : rules d = .ok rs)
    {rule : String} :
    rule.toList ∈ ruleLines d ↔ rule ∈ rs := by
  simp [ruleLines, h, String.toList_inj]

/-- The line of a forward names the guest's address. -/
theorem infix_ruleFor (vmName : String) (guest : Address) (f : Forward) :
    guest.toChars ++ [':'] <:+: (ruleFor vmName guest f).toList := by
  have hword : guest.text ++ ":" ++ f.guest.asTarget ∈ lineWords guest f := by simp [lineWords]
  obtain ⟨front, back, hwords⟩ := List.append_of_mem hword
  have htext : (guest.text ++ ":" ++ f.guest.asTarget).toList
      = (guest.toChars ++ [':']) ++ f.guest.asTarget.toList := by
    simp [Address.text]
  rw [toList_ruleFor, lineOf, hwords, List.flatMap_append, List.flatMap_cons, htext]
  simp only [List.append_assoc]
  rw [← List.append_assoc guest.toChars]
  exact List.infix_append' _ _ _

/-- Once its rules are added, some line of the block names the guest's address. -/
theorem exists_line_of_guest {d : Declaration} {guest : Address} (hguest : d.privateIp = some guest)
    (hforwards : d.forwards ≠ []) (hrules : ∀ rule ∈ ruleLines d, IsRule rule)
    (inside : List Line) : ∃ line ∈ (ruleLines d).foldl Block.insertRule inside,
      Text.trim line ≠ [] ∧ guest.toChars ++ [':'] <:+: line := by
  obtain ⟨f, hf⟩ := List.exists_mem_of_ne_nil _ hforwards
  have hmem : (ruleFor d.vmName guest f).toList ∈ ruleLines d := by
    simp only [ruleLines, rules_of_privateIp hguest]
    exact List.mem_map_of_mem (List.mem_map_of_mem hf)
  obtain ⟨line, hline, hmatches⟩ :=
    Block.exists_matchesRule_foldl_insertRule hrules hmem inside
  have hrule := hrules _ hmem
  have htrim := Block.infix_of_matchesRule hrule hmatches
  refine ⟨line, hline, htrim.ne_nil hrule.filled, ?_⟩
  exact (infix_ruleFor d.vmName guest f).trans (htrim.trans (Text.trim_infix line))

section Guest

variable {d : Declaration} {guest : Address} {rs : List String} {before after : String}
  {now : Located} (hrs : rules d = .ok rs) (hrules : ∀ rule ∈ ruleLines d, IsRule rule)
  (hbefore : Block.usual.locate (Text.lines before.toList) = some now)
  (hafter : Block.usual.locate (Text.lines after.toList)
    = some { now with inside := (ruleLines d).foldl Block.insertRule now.inside })
include hrs hrules hbefore hafter

/-- In a block that is on, the rules of a guest are in force. -/
theorem exposed_of_active (hguest : d.privateIp = some guest) (hforwards : d.forwards ≠ [])
    (hactive : (Block.usual.status before).active = true) :
    Block.usual.isExposed guest after.toList = true ∧
      ∀ rule ∈ rs, (∃ line ∈ (Block.usual.status after).rules, Text.trimmed line = rule) ∨
        ∃ line ∈ (Block.usual.status before).rules, Text.trimmed line = "# " ++ rule := by
  have hon := (Block.active_status_iff hbefore).1 hactive
  constructor
  · rw [Block.isExposed_of_locate hafter, Block.isOff_foldl_insertRule hrules]
    exact ⟨hon, exists_line_of_guest hguest hforwards hrules now.inside⟩
  · intro rule hmem
    have hline := (mem_ruleLines_iff hrs).2 hmem
    have hne : rule ≠ "" := by
      rintro rfl
      exact (hrules _ hline).filled rfl
    rw [Block.exists_trimmed_iff hafter hne, Block.exists_trimmed_iff hbefore (by simp [hne])]
    simpa using Block.stands_of_on hon hrules hline

/-- In a block with nothing in it the rules of a guest are comments. -/
theorem hidden_of_empty (hempty : (Block.usual.status before).rules = []) :
    Block.usual.isExposed guest after.toList = false ∧
      ∀ rule ∈ rs, "# " ++ rule ∈ (Block.usual.status after).rules := by
  have hblank := Block.blank_of_rules_status hbefore hempty
  constructor
  · rw [← Bool.not_eq_true, Block.isExposed_of_locate hafter,
      Block.isOff_foldl_insertRule hrules, Block.isOff_of_blank hblank]
    simp
  · intro rule hmem
    have hline := Block.stands_of_blank hblank hrules ((mem_ruleLines_iff hrs).2 hmem)
    have hcomment : ("# " ++ rule).toList = '#' :: ' ' :: rule.toList := by simp
    rw [Block.mem_rules_status hafter, hcomment]
    refine ⟨hline, fun hnil => ?_⟩
    exact absurd (Text.trim_eq_nil_iff.1 hnil '#' List.mem_cons_self) (by decide)

end Guest

/-! ### Calls -/

namespace Service

variable {σ : Type} {text : σ → String} {svc : Service σ} {s : σ}

theorem status_result (hf : svc.file.Steady text) (s : σ) :
    (svc.status.result s).1 = .ok (svc.block.status (text s)) := by
  obtain ⟨s', hread, -⟩ := hf.read s
  unfold status
  rw [Effect.bind_of_ok hread]
  rfl

theorem isExposed_result (hf : svc.file.Steady text) {d : Declaration} {ip : Address}
    (hip : d.privateIp = some ip) (s : σ) :
    ((svc.isExposed d).result s).1 = .ok (svc.block.isExposed ip (text s).toList) := by
  obtain ⟨s', hread, -⟩ := hf.read s
  unfold isExposed
  rw [hip]
  simp only [Effect.bind_of_ok hread]
  rfl

/-- Switching on succeeds, and there is a block afterwards if there was one before. -/
theorem run_enable (hf : svc.file.Steady text) (hb : svc.block = Block.usual) {found : Located}
    (h : Block.usual.locate (Text.lines (text s).toList) = some found) :
    ∃ b s', (svc.run .enable).result s = (.ok b, s') ∧
      ∃ now, Block.usual.locate (Text.lines (text s').toList) = some now := by
  let transform : String → Except Fault String := fun t => .ok (svc.block.toggled false t)
  have htoggled : transform (text s) = .ok (svc.block.toggled false (text s)) := rfl
  obtain ⟨s', hrun, hs'⟩ := hf.update htoggled
  obtain ⟨now, hnow⟩ := Block.exists_locate_setCommented_false h
  refine ⟨_, s', hrun, now, ?_⟩
  rw [hs', hb, Block.toggled, String.toList_ofList]
  exact hnow

/-- Exposing a guest succeeds where there is a block, and puts in its rules one by one. -/
theorem run_expose (hf : svc.file.Steady text) (hb : svc.block = Block.usual) {found : Located}
    (h : Block.usual.locate (Text.lines (text s).toList) = some found) {d : Declaration}
    (hname : Role.checkName d.vmName = .ok ()) (hip : d.privateIp.isSome = true) :
    ∃ b s', (svc.run (.expose d)).result s = (.ok b, s') ∧
      Block.usual.locate (Text.lines (text s').toList)
        = some { found with inside := (ruleLines d).foldl Block.insertRule found.inside } := by
  obtain ⟨rs, hrs, hlines, hrule⟩ := exists_rules_eq hname hip
  obtain ⟨after, hafter, hlocate⟩ := Block.withRules_of_locate h hrule
  rw [← hb] at hafter
  obtain ⟨s', hrun, hs'⟩ := hf.update hafter
  have hresult : (svc.run (.expose d)).result s = (.ok (decide (after ≠ text s)), s') := by
    rw [run, expose, hrs, Effect.bind_of_ok (Effect.result_ofExcept _ s)]
    exact hrun
  refine ⟨_, s', hresult, ?_⟩
  rw [hs', hlines]
  exact hlocate

/-- **What is exposed in a block that was switched on.**  Both calls succeed.  When the block is
    on behind the first one, the guest is exposed behind the second one, and each of its rules
    stands plain, or its commented form was left behind the first call.  When nothing is in the
    block, it stays off, and the rules stand in it as comments. -/
theorem enabled_block_exposes {svc : Service σ} (hf : svc.file.Steady text) (hb : svc.block = {})
    {s : σ} {found : Located}
    (hfound : ({} : Block).locate (Text.lines (text s).toList) = some found) {d : Declaration}
    (hname : Role.checkName d.vmName = .ok ()) (hip : d.privateIp.isSome = true)
    (hforwards : d.forwards ≠ []) :
    let enabled := svc.after s [.enable]
    let exposed := svc.after s [.enable, .expose d]
    ∃ changed added rs before after,
      ((svc.run .enable).result s).1 = .ok changed ∧
      ((svc.run (.expose d)).result enabled).1 = .ok added ∧
      rules d = .ok rs ∧
      (svc.status.result enabled).1 = .ok before ∧ (svc.status.result exposed).1 = .ok after ∧
      (before.active = true → ((svc.isExposed d).result exposed).1 = .ok true ∧
        ∀ rule ∈ rs, (∃ line ∈ after.rules, Text.trimmed line = rule) ∨
          ∃ line ∈ before.rules, Text.trimmed line = "# " ++ rule) ∧
      (before.rules = [] → ((svc.isExposed d).result exposed).1 = .ok false ∧
        ∀ rule ∈ rs, "# " ++ rule ∈ after.rules) := by
  intro enabled exposed
  have hblock : svc.block = Block.usual := hb
  obtain ⟨guest, hguest⟩ := Option.isSome_iff_exists.1 hip
  obtain ⟨rs, hrs, hlines, hrule⟩ := exists_rules_eq hname hip
  have hrules : ∀ rule ∈ ruleLines d, IsRule rule := by
    rw [hlines]
    exact List.forall_mem_map.2 hrule
  obtain ⟨changed, s₁, henable, now, hnow⟩ := run_enable hf hblock hfound
  obtain ⟨added, s₂, hexpose, hlast⟩ := run_expose hf hblock hnow hname hip
  have henabled : enabled = s₁ := congrArg Prod.snd henable
  have hexposed : exposed = s₂ := by
    change ((svc.run (.expose d)).result enabled).2 = s₂
    rw [henabled, hexpose]
  have hanswer := isExposed_result hf hguest s₂
  rw [hblock] at hanswer
  refine ⟨changed, added, rs, Block.usual.status (text s₁), Block.usual.status (text s₂), ?_, ?_,
    hrs, ?_, ?_, ?_, ?_⟩
  · rw [henable]
  · rw [henabled, hexpose]
  · rw [henabled, status_result hf, hblock]
  · rw [hexposed, status_result hf, hblock]
  · intro hactive
    rw [hexposed, hanswer, Except.ok.injEq]
    exact exposed_of_active hrs hrules hnow hlast hguest hforwards hactive
  · intro hempty
    rw [hexposed, hanswer, Except.ok.injEq]
    exact hidden_of_empty hrs hrules hnow hlast hempty

end Service

/-! ### Blocks for examples -/

/-- One hidden line is enough for the block to be on, and the guest exposed, afterwards. -/
theorem Service.enabled_block_exposes_spark :
    let spark := Declaration.spark ⟨192, 168, 1, 194⟩
    let exposed := quiet.after (View.off, 0) [.enable, .expose spark]
    ({} : Block).locate (Text.lines View.off.text.toList)
        = some ⟨["#KVM_GO_START".toList], ["# *nat".toList], ["#KVM_GO_END".toList]⟩ ∧
      Role.checkName spark.vmName = .ok () ∧ spark.privateIp.isSome = true ∧ spark.forwards ≠ [] ∧
      ((quiet.isExposed spark).result exposed).1 = .ok true := by
  intro spark exposed
  have hfound : ({} : Block).locate (Text.lines View.off.text.toList)
      = some ⟨["#KVM_GO_START".toList], ["# *nat".toList], ["#KVM_GO_END".toList]⟩ := by
    decide +kernel
  have hname : Role.checkName spark.vmName = .ok () := by decide +kernel
  have hforwards : spark.forwards ≠ [] := by decide
  have hfile : quiet.file.Steady fun s => s.1.text := RuleFile.steady_inMemory
  obtain ⟨changed, added, rs, before, after, -, -, -, hbefore, -, hexposed, -⟩ :=
    enabled_block_exposes hfile rfl (s := (View.off, 0)) hfound hname rfl hforwards
  have hstatus : (quiet.status.result (quiet.after (View.off, 0) [.enable])).1
      = .ok ⟨true, ["*nat"]⟩ := by decide +kernel
  rw [hstatus] at hbefore
  cases hbefore
  exact ⟨hfound, hname, rfl, hforwards, (hexposed rfl).1⟩

def View.hollow : View where
  text := "#KVM_GO_START\n#KVM_GO_END\n"
  loaded := "#KVM_GO_START\n#KVM_GO_END\n"

/-- **An empty block cannot be switched on**: the rules of a guest are added to it as comments. -/
theorem Service.empty_block_exposes_nothing :
    let spark := Declaration.spark ⟨192, 168, 1, 194⟩
    let exposed := quiet.after (View.hollow, 0) [.enable, .expose spark]
    (({} : Block).locate (Text.lines View.hollow.text.toList)).isSome = true ∧
      Role.checkName spark.vmName = .ok () ∧ spark.privateIp.isSome = true ∧ spark.forwards ≠ [] ∧
      ((quiet.isExposed spark).result exposed).1 = .ok false ∧
      ∃ rule, rules spark = .ok [rule] ∧
        (quiet.status.result exposed).1 = .ok ⟨false, ["# " ++ rule]⟩ := by
  refine ⟨by decide +kernel, by decide +kernel, rfl, by decide, by decide +kernel, _, rfl, ?_⟩
  decide +kernel

end GuestPorts.Perimeter
