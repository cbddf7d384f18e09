/-
  GuestPorts/Proofs/Perimeter/Withdrawal.lean
  ===========================================
  **Withdrawing a guest cancels its exposure** (`withdrawal_cancels_exposure`), in a block of
  any lines.

  An added line matches the rule that it was added for, whatever state the block is in, so the
  rules that are added once are all there a second time, and are all deleted again.  A rule that
  was there before, plain or commented, is not told from one that was added: it is passed over by
  the exposure and deleted by the withdrawal.
-/
import GuestPorts.Proofs.Perimeter.Guests

namespace GuestPorts.Perimeter

namespace Block

variable {rules inside : List Line} {rule : Line}

/-! ### Adding twice -/

theorem insertRule_of_there (h : ∃ line ∈ inside, Block.usual.matchesRule rule line = true) :
    insertRule inside rule = inside := if_pos (List.any_eq_true.2 h)

theorem foldl_insertRule_of_there
    (h : ∀ rule ∈ rules, ∃ line ∈ inside, Block.usual.matchesRule rule line = true) :
    rules.foldl insertRule inside = inside := by
  induction rules with
  | nil => rfl
  | cons rule rest ih =>
    obtain ⟨hrule, hrest⟩ := List.forall_mem_cons.1 h
    rw [List.foldl_cons, insertRule_of_there hrule, ih hrest]

/-- **Rules that were added are there**, and none is added again. -/
theorem foldl_insertRule_foldl_insertRule (hrules : ∀ rule ∈ rules, IsRule rule)
    (inside : List Line) : rules.foldl insertRule (rules.foldl insertRule inside)
      = rules.foldl insertRule inside :=
  foldl_insertRule_of_there fun _ hrule => exists_matchesRule_foldl_insertRule hrules hrule inside

/-! ### In the text -/

/-- Texts that differ in their blocks only are the same when their blocks are. -/
theorem eq_iff_of_locate {b : Block} {text text' : String} {found : Located} {inside : List Line}
    (h : b.locate (Text.lines text.toList) = some found)
    (h' : b.locate (Text.lines text'.toList) = some { found with inside := inside }) :
    text' = text ↔ inside = found.inside := by
  constructor
  · rintro rfl
    rw [h] at h'
    exact congrArg Located.inside (Option.some.inj h'.symm)
  · rintro rfl
    rw [← ofList_of_locate h, ← ofList_of_locate h']

end Block

/-! ### The rules of a guest -/

section Guest

variable {d : Declaration} {rs : List String}

theorem map_toList_of_rules (hrs : rules d = .ok rs) : ruleLines d = rs.map String.toList := by
  simp only [ruleLines, hrs]

/-- Every line that is added is a rule of the guest, shown or hidden. -/
theorem exists_foldl_insertRule_ruleLines (hname : Role.checkName d.vmName = .ok ())
    (inside : List Line) : ∃ added, (ruleLines d).foldl Block.insertRule inside = inside ++ added ∧
      ∀ line ∈ added, holdsRuleOf d line = true := by
  obtain ⟨added, hadded, hshown⟩ := Block.exists_foldl_insertRule_eq
    (fun rule hrule => isRule_of_mem_ruleLines hname hrule) inside
  refine ⟨added, hadded, fun line hline => ?_⟩
  obtain ⟨rule, hrule, rfl⟩ := hshown line hline
  exact holdsRuleOf_shown hname hrule _

/-- **What is left when the rules are deleted** does not depend on whether they were added. -/
theorem filter_foldl_insertRule (hname : Role.checkName d.vmName = .ok ()) (inside : List Line) :
    ((ruleLines d).foldl Block.insertRule inside).filter (fun line => !holdsRuleOf d line)
      = inside.filter fun line => !holdsRuleOf d line := by
  obtain ⟨added, hadded, hholds⟩ := exists_foldl_insertRule_ruleLines hname inside
  have hgone : added.filter (fun line => !holdsRuleOf d line) = [] := by
    rw [List.filter_eq_nil_iff]
    intro line hline
    simp [hholds line hline]
  rw [hadded, List.filter_append, hgone, List.append_nil]

section Text

variable {text : String} {found : Located}
  (hfound : ({} : Block).locate (Text.lines text.toList) = some found) (hrs : rules d = .ok rs)
include hfound hrs

theorem locate_withRules (hname : Role.checkName d.vmName = .ok ()) :
    ∃ exposed, ({} : Block).withRules rs text = .ok exposed ∧
      ({} : Block).locate (Text.lines exposed.toList)
        = some { found with inside := (ruleLines d).foldl Block.insertRule found.inside } := by
  have hlines := map_toList_of_rules hrs
  have hrule : ∀ rule ∈ rs, IsRule rule.toList := by
    intro rule hmem
    exact isRule_of_mem_ruleLines hname (hlines ▸ List.mem_map_of_mem hmem)
  rw [hlines]
  exact Block.withRules_of_locate hfound hrule

theorem locate_withoutRules :
    ({} : Block).locate (Text.lines (({} : Block).withoutRules rs text).toList)
      = some { found with inside := found.inside.filter fun line => !holdsRuleOf d line } := by
  have hholds : ∀ line, holdsRuleOf d line
      = rs.any fun rule => ({} : Block).matchesRule rule.toList line := by
    intro line
    rw [holdsRuleOf, map_toList_of_rules hrs, List.any_map]
    rfl
  simp only [hholds]
  exact Block.withoutRules_of_locate hfound rs

end Text

end Guest

/-- **Withdrawing cancels exposing.**  In a text with a block of any lines, exposing a guest
    twice is exposing it once, and withdrawing it behind that leaves what withdrawing it leaves
    of the first text: that text itself just when no line of the block was a rule of the guest.
    Exposing puts the guest's rules behind the lines of the block, and withdrawing deletes the
    lines of the block that are rules of the guest and no others. -/
theorem withdrawal_cancels_exposure {text : String} {found : Located}
    (hfound : ({} : Block).locate (Text.lines text.toList) = some found) {d : Declaration}
    (hname : Role.checkName d.vmName = .ok ()) (hip : d.privateIp.isSome = true) :
    ∃ rs exposed, rules d = .ok rs ∧ ({} : Block).withRules rs text = .ok exposed ∧
      ({} : Block).withRules rs exposed = .ok exposed ∧
      ({} : Block).withoutRules rs exposed = ({} : Block).withoutRules rs text ∧
      (({} : Block).withoutRules rs text = text ↔
        ∀ line ∈ found.inside, holdsRuleOf d line = false) ∧
      (∃ added, Text.lines exposed.toList = found.before ++ (found.inside ++ added) ++ found.after ∧
        ∀ line ∈ added, holdsRuleOf d line = true) ∧
      Text.lines (({} : Block).withoutRules rs text).toList = found.before
        ++ (found.inside.filter fun line => !holdsRuleOf d line) ++ found.after := by
  obtain ⟨rs, hrs, -, -⟩ := exists_rules_eq hname hip
  obtain ⟨exposed, hexposed, hnow⟩ := locate_withRules hfound hrs hname
  obtain ⟨again, hagain, hthen⟩ := locate_withRules hnow hrs hname
  have hleft := locate_withoutRules hfound hrs
  refine ⟨rs, exposed, hrs, hexposed, ?twice, ?cancelled, ?nothing, ?added, ?deleted⟩
  case twice =>
    have hrules : ∀ rule ∈ ruleLines d, IsRule rule := fun _ => isRule_of_mem_ruleLines hname
    rw [hagain, (Block.eq_iff_of_locate hnow hthen).2]
    exact Block.foldl_insertRule_foldl_insertRule hrules found.inside
  case cancelled =>
    have hleftThen := locate_withoutRules hnow hrs
    exact (Block.eq_iff_of_locate hleft hleftThen).2 (filter_foldl_insertRule hname found.inside)
  case nothing =>
    rw [Block.eq_iff_of_locate hfound hleft, List.filter_eq_self]
    simp only [Bool.not_eq_true']
  case added =>
    obtain ⟨added, hadded, hholds⟩ := exists_foldl_insertRule_ruleLines hname found.inside
    refine ⟨added, ?_, hholds⟩
    rw [(Block.locate_eq_some_iff.1 hnow).1, ← hadded]
    rfl
  case deleted => exact (Block.locate_eq_some_iff.1 hleft).1

/-- A guest that declares a mapping twice, in a block of a rule, a comment and a blank line. -/
theorem withdrawal_cancels_exposure_repeated :
    let spark := { Declaration.spark ⟨192, 168, 1, 194⟩ with
      portMap := [⟨1100, 3000, .tcp⟩, ⟨1100, 3000, .tcp⟩] }
    let text := "*filter\n#KVM_GO_START\n*nat\n# by hand\n\n#KVM_GO_END\nCOMMIT"
    let found : Located := ⟨["*filter".toList, "#KVM_GO_START".toList],
      ["*nat".toList, "# by hand".toList, []], ["#KVM_GO_END".toList, "COMMIT".toList]⟩
    (({} : Block).locate (Text.lines text.toList) = some found ∧
        Role.checkName spark.vmName = .ok () ∧ spark.privateIp.isSome = true) ∧
      ∃ rs exposed, rules spark = .ok rs ∧ ({} : Block).withRules rs text = .ok exposed ∧
        ({} : Block).withRules rs exposed = .ok exposed ∧
        ({} : Block).withoutRules rs exposed = text := by
  intro spark text found
  have hfound : ({} : Block).locate (Text.lines text.toList) = some found := by decide +kernel
  have hname : Role.checkName spark.vmName = .ok () := by decide +kernel
  have hnone : ∀ line ∈ found.inside, holdsRuleOf spark line = false := by decide +kernel
  obtain ⟨rs, exposed, hrs, hexposed, htwice, hcancelled, hnothing, -⟩ :=
    withdrawal_cancels_exposure hfound hname rfl
  exact ⟨⟨hfound, hname, rfl⟩, rs, exposed, hrs, hexposed, htwice,
    hcancelled.trans (hnothing.2 hnone)⟩

end GuestPorts.Perimeter
