/-
  GuestPorts/Proofs/Perimeter/Guests.lean
  =======================================
  **No call for one guest touches the lines of another.**

  A line of the block says whose it is in its note only, so everything hangs on the name being
  read back from there (`eq_of_ruleFor_eq`).  A usable name holds no quote, so the note keeps it
  as it is, and no blank, so it is the second word of the note.  (Two names that differ in the
  kind of a quote would have the same lines.)  Then a line is a rule of one guest at most, shown
  or hidden (`holdsRuleOf_eq_false`); what is deleted for one guest is not a line of the other,
  and neither is what is added.
-/
import GuestPorts.Proofs.Perimeter.Exposure

namespace GuestPorts.Perimeter

/-! ### Whose line it is -/

theorem unquoted_eq_self {text : String} (h : '"' ∉ text.toList) : unquoted text = text := by
  have hkept : ∀ c ∈ text.toList, (if c = '"' then '\'' else c) = c := by
    intro c hc
    rw [if_neg]
    rintro rfl
    exact h hc
  rw [unquoted, List.map_congr_left hkept, List.map_id', String.ofList_toList]

/-- The note of a usable name has no quote to lose. -/
theorem unquoted_note {vmName : String} (hname : Role.checkName vmName = .ok ()) (f : Forward) :
    unquoted (note vmName f) = note vmName f := by
  apply unquoted_eq_self
  intro h
  simp only [note, String.toList_append, List.mem_append] at h
  rcases h with ((((h | h) | h) | h) | h) | h
  · exact absurd h (by decide)
  · exact (plain_of_checkName hname h).1.1 rfl
  · exact absurd h (by decide)
  · exact (plain_of_mem_asTarget h).1.1 rfl
  · exact absurd h (by decide)
  · exact (plain_of_mem_asTarget h).1.1 rfl

/-- The name of the guest is the second word of a note. -/
theorem eq_of_note_eq {vm vm' : String} (hvm : Role.checkName vm = .ok ())
    (hvm' : Role.checkName vm' = .ok ()) {f f' : Forward} (h : note vm f = note vm' f') :
    vm = vm' := by
  have hnote : ∀ (name : String) (g : Forward), ∃ rest,
      (note name g).toList = "kvmfwd ".toList ++ (name.toList ++ ' ' :: rest) := by
    intro name g
    exact ⟨_, by simp only [note, String.toList_append, List.append_assoc]; rfl⟩
  obtain ⟨rest, hrest⟩ := hnote vm f
  obtain ⟨rest', hrest'⟩ := hnote vm' f'
  rw [h, hrest'] at hrest
  have hcut := congrArg (Text.cutAt ' ') (List.append_cancel_left hrest)
  rw [Text.cutAt_append_sep fun hblank => (plain_of_checkName hvm' hblank).2.1 rfl,
    Text.cutAt_append_sep fun hblank => (plain_of_checkName hvm hblank).2.1 rfl] at hcut
  obtain ⟨hname, -⟩ := Prod.mk.inj (Option.some.inj hcut)
  exact String.toList_inj.1 hname.symm

/-- **A line of the block names its guest.** -/
theorem eq_of_ruleFor_eq {vm vm' : String} (hvm : Role.checkName vm = .ok ())
    (hvm' : Role.checkName vm' = .ok ()) {guest guest' : Address} {f f' : Forward}
    (h : ruleFor vm guest f = ruleFor vm' guest' f') : vm = vm' := by
  have hwords := congrArg words h
  rw [words_ruleFor hvm, words_ruleFor hvm'] at hwords
  obtain ⟨-, hnote⟩ := List.append_inj' hwords (by simp)
  rw [unquoted_note hvm, unquoted_note hvm'] at hnote
  exact eq_of_note_eq hvm hvm' (List.cons.inj hnote).1

/-- Whether a line of the block is a rule of a declaration, shown or hidden. -/
def holdsRuleOf (d : Declaration) (line : Line) : Bool :=
  (ruleLines d).any fun rule => ({} : Block).matchesRule rule line

theorem mem_ruleLines {d : Declaration} {rule : Line} (h : rule ∈ ruleLines d) :
    ∃ guest f, rule = (ruleFor d.vmName guest f).toList := by
  unfold ruleLines rules at h
  cases hip : d.privateIp with
  | none =>
    rw [hip] at h
    cases h
  | some guest =>
    rw [hip] at h
    obtain ⟨text, htext, rfl⟩ := List.mem_map.1 h
    obtain ⟨f, -, rfl⟩ := List.mem_map.1 htext
    exact ⟨guest, f, rfl⟩

theorem isRule_of_mem_ruleLines {d : Declaration} (hname : Role.checkName d.vmName = .ok ())
    {rule : Line} (h : rule ∈ ruleLines d) : IsRule rule := by
  obtain ⟨guest, f, hrule⟩ := mem_ruleLines h
  rw [hrule]
  exact isRule_ruleFor hname guest f

/-- A line is one rule at most: it is not plain and a comment at once. -/
theorem eq_of_matchesRule {rule rule' line : Line} (hrule : IsRule rule) (hrule' : IsRule rule')
    (h : Block.usual.matchesRule rule line = true)
    (h' : Block.usual.matchesRule rule' line = true) : rule = rule' := by
  rcases (Block.matchesRule_iff hrule.trimmed).1 h with hplain | hcomment
  · rcases (Block.matchesRule_iff hrule'.trimmed).1 h' with hplain' | hcomment'
    · exact hplain.symm.trans hplain'
    · have htrim := hrule.trimmed.trans (hplain.symm.trans hcomment')
      exact absurd htrim (hrule.tidy.trim_ne_comment _)
  · rcases (Block.matchesRule_iff hrule'.trimmed).1 h' with hplain' | hcomment'
    · have htrim := hrule'.trimmed.trans (hplain'.symm.trans hcomment)
      exact absurd htrim (hrule'.tidy.trim_ne_comment _)
    · have hboth := hcomment.symm.trans hcomment'
      exact (List.cons.inj (List.cons.inj hboth).2).2

/-- A guest's rule is its own, shown or hidden. -/
theorem holdsRuleOf_shown {d : Declaration} (hname : Role.checkName d.vmName = .ok ())
    {rule : Line} (h : rule ∈ ruleLines d) (active : Bool) :
    holdsRuleOf d (shown active rule) = true :=
  List.any_eq_true.2 ⟨rule, h, (isRule_of_mem_ruleLines hname h).matchesRule_shown active⟩

section Guests

variable {d other : Declaration} (hd : Role.checkName d.vmName = .ok ())
  (hother : Role.checkName other.vmName = .ok ()) (hne : d.vmName ≠ other.vmName)
include hd hother hne

theorem ne_of_mem_ruleLines {rule rule' : Line} (h : rule ∈ ruleLines d)
    (h' : rule' ∈ ruleLines other) : rule ≠ rule' := by
  obtain ⟨guest, f, hrule⟩ := mem_ruleLines h
  obtain ⟨guest', f', hrule'⟩ := mem_ruleLines h'
  intro heq
  rw [hrule, hrule'] at heq
  exact hne (eq_of_ruleFor_eq hd hother (String.toList_inj.1 heq))

/-- **A line is a rule of one guest at most.** -/
theorem holdsRuleOf_eq_false {rule line : Line} (hrule : rule ∈ ruleLines d)
    (h : Block.usual.matchesRule rule line = true) : holdsRuleOf other line = false := by
  unfold holdsRuleOf
  rw [List.any_eq_false]
  intro rule' hrule' h'
  have hsame := eq_of_matchesRule (isRule_of_mem_ruleLines hd hrule)
    (isRule_of_mem_ruleLines hother hrule') h h'
  exact ne_of_mem_ruleLines hd hother hne hrule hrule' hsame

end Guests

/-! ### What is deleted -/

namespace Block

variable {b : Block} {found : Located}

/-- The block is where it was when a rule has been deleted. -/
theorem withoutRule_of_locate {text : String} (h : b.locate (Text.lines text.toList) = some found)
    (rule : String) :
    b.locate (Text.lines (b.withoutRule text rule).toList)
      = some { found with
          inside := found.inside.filter fun line => !b.matchesRule rule.toList line } := by
  have hdelimits := (locate_eq_some_iff.1 h).2
  rw [withoutRule, removeRule, mapInside_of_locate h, String.toList_ofList]
  apply (hdelimits.edit ?_).locate_unlines
  · apply notMem_of_edit h
    intro line hline
    exact notMem_of_mem_inside h line (List.mem_filter.1 hline).1
  · intro line hline
    exact hdelimits.inside line (List.mem_filter.1 hline).1

/-- **Deleting rules leaves the other lines**, in their order and where they were. -/
theorem withoutRules_of_locate {text : String} (h : b.locate (Text.lines text.toList) = some found)
    (rs : List String) :
    b.locate (Text.lines (b.withoutRules rs text).toList)
      = some { found with
          inside := found.inside.filter fun line =>
            !rs.any fun rule => b.matchesRule rule.toList line } := by
  unfold withoutRules
  induction rs generalizing text found with
  | nil => simpa using h
  | cons rule rest ih =>
    rw [List.foldl_cons, ih (withoutRule_of_locate h rule), List.filter_filter]
    simp only [List.any_cons, Bool.not_or, Bool.and_comm]

theorem withoutRules_of_missing {text : String} (h : b.locate (Text.lines text.toList) = none)
    (rs : List String) : b.withoutRules rs text = text := by
  unfold withoutRules
  induction rs with
  | nil => rfl
  | cons rule rest ih =>
    have hkept : b.withoutRule text rule = text := by
      simp only [withoutRule, removeRule, mapInside, h, String.ofList_toList]
    rw [List.foldl_cons, hkept, ih]

theorem eq_of_withRules_of_missing {text after : String}
    (h : b.locate (Text.lines text.toList) = none) {rs : List String}
    (hafter : b.withRules rs text = .ok after) : after = text := by
  cases rs with
  | nil => exact (Except.ok.inj hafter).symm
  | cons rule rest =>
    have hrefused : b.withRule text rule = .error (.blockNotFound b.startMarker b.endMarker) := by
      simp only [withRule, addRule, h]
    unfold withRules at hafter
    rw [List.foldlM_cons, hrefused] at hafter
    cases hafter

theorem filledLines_of_locate {text : List Char} (h : b.locate (Text.lines text) = some found) :
    b.filledLines text = Located.filled found := by
  simp only [filledLines, h]

end Block

/-! ### Two guests -/

section Guests

variable {d other : Declaration} (hd : Role.checkName d.vmName = .ok ())
  (hother : Role.checkName other.vmName = .ok ()) (hne : d.vmName ≠ other.vmName)
include hd hother hne

/-- **Deleting the rules of one guest leaves those of the other.** -/
theorem filter_withdrawn {text after : String}
    (h : (Call.withdraw d).transform {} text = .ok after) :
    (Block.usual.filledLines after.toList).filter (holdsRuleOf other)
      = (Block.usual.filledLines text.toList).filter (holdsRuleOf other) := by
  obtain ⟨rs, hrs, hafter⟩ := Except.bind_eq_ok.1 h
  have hafter : Block.usual.withoutRules rs text = after := Except.ok.inj hafter
  cases hfound : Block.usual.locate (Text.lines text.toList) with
  | none => rw [← hafter, Block.withoutRules_of_missing hfound]
  | some found =>
    have hnow := Block.withoutRules_of_locate hfound rs
    rw [hafter] at hnow
    rw [Block.filledLines_of_locate hfound, Block.filledLines_of_locate hnow]
    unfold Block.Located.filled
    rw [List.filter_filter, List.filter_filter, List.filter_filter]
    apply List.filter_congr
    intro line _
    -- a line of the other guest is none of those that are deleted
    cases hline : holdsRuleOf other line with
    | false => rfl
    | true =>
      have hkept : (rs.any fun rule => Block.usual.matchesRule rule.toList line) = false := by
        rw [List.any_eq_false]
        intro rule hrule hmatches
        rw [holdsRuleOf_eq_false hd hother hne ((mem_ruleLines_iff hrs).2 hrule) hmatches] at hline
        cases hline
      rw [hkept, Bool.not_false, Bool.and_true]

/-- **What is added for one guest is no line of the other.** -/
theorem exists_filledLines_exposed {text after : String}
    (h : (Call.expose d).transform {} text = .ok after) :
    ∃ added, Block.usual.filledLines after.toList = Block.usual.filledLines text.toList ++ added ∧
      ∀ line ∈ added, holdsRuleOf other line = false := by
  obtain ⟨rs, hrs, hafter⟩ := Except.bind_eq_ok.1 h
  have hrules : ∀ rule ∈ rs.map String.toList, rule ∈ ruleLines d := by
    intro rule hrule
    obtain ⟨text, htext, rfl⟩ := List.mem_map.1 hrule
    exact (mem_ruleLines_iff hrs).2 htext
  have hisRule : ∀ rule ∈ rs.map String.toList, IsRule rule := fun rule hrule =>
    isRule_of_mem_ruleLines hd (hrules rule hrule)
  cases hfound : Block.usual.locate (Text.lines text.toList) with
  | none =>
    rw [Block.eq_of_withRules_of_missing hfound hafter]
    exact ⟨[], (List.append_nil _).symm, nofun⟩
  | some found =>
    obtain ⟨after', hafter', hnow⟩ :=
      Block.withRules_of_locate hfound (List.forall_mem_map.1 hisRule)
    obtain rfl : after' = after := Except.ok.inj (hafter'.symm.trans hafter)
    obtain ⟨added, hadded, hshown⟩ := Block.exists_foldl_insertRule_eq hisRule found.inside
    rw [hadded] at hnow
    refine ⟨added.filter fun line => !(Text.trim line).isEmpty, ?_, ?_⟩
    · rw [Block.filledLines_of_locate hnow, Block.filledLines_of_locate hfound]
      exact List.filter_append _ _
    · intro line hline
      obtain ⟨rule, hrule, rfl⟩ := hshown line (List.mem_filter.1 hline).1
      exact holdsRuleOf_eq_false hd hother hne (hrules rule hrule)
        ((hisRule rule hrule).matchesRule_shown _)

end Guests

namespace Service

variable {σ : Type} {view : σ → View}

/-- **The lines of two guests are independent.**  Whatever fails on the way, taking the rules of
    one guest out leaves the lines of the other in their order, and what putting them in adds is
    no line of the other; and no line is one of both, plain or commented. -/
theorem guests_keep_apart {svc : Service σ} (hf : svc.file.Keeps view) (hb : svc.block = {})
    {d other : Declaration} (hd : Role.checkName d.vmName = .ok ())
    (hother : Role.checkName other.vmName = .ok ()) (hne : d.vmName ≠ other.vmName) :
    (∀ s, let after := (view ((svc.run (.withdraw d)).result s).2).text
      (svc.block.filledLines after.toList).filter (holdsRuleOf other)
        = (svc.block.filledLines (view s).text.toList).filter (holdsRuleOf other)) ∧
      (∀ s, let after := (view ((svc.run (.expose d)).result s).2).text
        ∃ added, svc.block.filledLines after.toList
            = svc.block.filledLines (view s).text.toList ++ added ∧
          ∀ line ∈ added, holdsRuleOf other line = false) ∧
      ∀ line, holdsRuleOf d line = true → holdsRuleOf other line = false := by
  refine ⟨?withdrawn, ?exposed, ?apart⟩
  case withdrawn =>
    intro s after
    rcases (run_updated hf (.withdraw d) s).text with hsame | hmade
    · rw [show after = (view s).text from hsame]
    · rw [hb] at hmade ⊢
      exact filter_withdrawn hd hother hne hmade
  case exposed =>
    intro s after
    rcases (run_updated hf (.expose d) s).text with hsame | hmade
    · rw [show after = (view s).text from hsame]
      exact ⟨[], (List.append_nil _).symm, nofun⟩
    · rw [hb] at hmade ⊢
      exact exists_filledLines_exposed hd hother hne hmade
  case apart =>
    intro line hline
    obtain ⟨rule, hrule, hmatches⟩ := List.any_eq_true.1 hline
    exact holdsRuleOf_eq_false hd hother hne hrule hmatches

/-- Two guests with one address and the same ports in a block that is off. -/
theorem guests_keep_apart_sparks :
    let spark := Declaration.spark ⟨192, 168, 1, 194⟩
    let other := { spark with vmName := "spark2" }
    let listing : Listing := ⟨false, ruleLines spark ++ ruleLines other⟩
    let text := listing.text ["#KVM_GO_START".toList] ["#KVM_GO_END".toList]
    let after := ((quiet.run (.withdraw spark)).result (⟨text, text⟩, 0)).2.1.text
    spark.vmName ≠ other.vmName ∧
      (quiet.block.filledLines after.toList).filter (holdsRuleOf other)
        = (ruleLines other).map (shown false) := by
  intro spark other listing text after
  have hspark : Role.checkName spark.vmName = .ok () := by decide +kernel
  have hother : Role.checkName other.vmName = .ok () := by decide +kernel
  have hne : spark.vmName ≠ other.vmName := by decide
  have hkeeps : quiet.file.Keeps Prod.fst := RuleFile.keeps_inMemory fun _ => false
  obtain ⟨hwithdrawn, -, hapart⟩ := guests_keep_apart hkeeps rfl hspark hother hne
  have htidy : ∀ line ∈ listing.lines, Tidy line := by
    intro line hline
    rcases List.mem_append.1 hline with hmem | hmem
    · exact (isRule_of_mem_ruleLines hspark hmem).tidy
    · exact (isRule_of_mem_ruleLines hother hmem).tidy
  have hframes : Listing.Frames ["#KVM_GO_START".toList] ["#KVM_GO_END".toList] :=
    { delimits := (Block.locate_eq_some_iff.1 (by decide +kernel : Block.usual.locate
        ["#KVM_GO_START".toList, "#KVM_GO_END".toList]
          = some ⟨["#KVM_GO_START".toList], [], ["#KVM_GO_END".toList]⟩)).2
      oneLine := by decide +kernel }
  refine ⟨hne, (hwithdrawn (⟨text, text⟩, 0)).trans ?_⟩
  have hlines := Block.filledLines_of_locate (hframes.locate_text (l := listing) htidy)
  refine (congrArg (List.filter (holdsRuleOf other)) hlines).trans ?_
  have hshown : listing.inside
      = (ruleLines spark).map (shown false) ++ (ruleLines other).map (shown false) :=
    List.map_append
  have hgone : ∀ line ∈ (ruleLines spark).map (shown false), holdsRuleOf other line = false := by
    intro line hline
    obtain ⟨rule, hrule, rfl⟩ := List.mem_map.1 hline
    exact hapart _ (holdsRuleOf_shown hspark hrule false)
  have hkept : ∀ line ∈ (ruleLines other).map (shown false),
      holdsRuleOf other line = true ∧ Text.trim line ≠ [] := by
    intro line hline
    obtain ⟨rule, hrule, rfl⟩ := List.mem_map.1 hline
    have hisRule := isRule_of_mem_ruleLines hother hrule
    refine ⟨holdsRuleOf_shown hother hrule false, ?_⟩
    rw [Ne, hisRule.tidy.trim_shown_eq_nil_iff]
    exact hisRule.trim_ne_nil
  unfold Block.Located.filled
  rw [hshown, List.filter_filter, List.filter_append, List.filter_eq_nil_iff.2,
    List.filter_eq_self.2, List.nil_append]
  · intro line hline
    simp [hkept line hline]
  · intro line hline
    simp [hgone line hline]

end Service

end GuestPorts.Perimeter
