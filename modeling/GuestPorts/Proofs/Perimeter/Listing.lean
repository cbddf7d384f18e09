/-
  GuestPorts/Proofs/Perimeter/Listing.lean
  ========================================
  **The managed block as a switch and a list of lines.**

  What an operator thinks of is a `Listing`: whether the block is on, and its lines as they
  read when it is on.  The rule file shows the listing in the frame of its sentinels, each
  filled line behind a marker while the block is off.

  An edit reads the switch off the lines, so the two could come apart.  They do not as long
  as one line stays that no call adds or removes: then a block that shows a listing shows,
  after any call, the listing after that call (`Listing.Sound`).
-/
import GuestPorts.Perimeter.Service
import GuestPorts.Proofs.Perimeter.Line
import GuestPorts.Proofs.Perimeter.Reload

namespace GuestPorts.Perimeter

/-! ### Listings -/

/-- A switch and the lines of a block as they read when it is on. -/
structure Listing where
  active : Bool
  lines : List Line
  deriving DecidableEq, Repr

namespace Listing

/-- Whether a line is one of some rules, blanks at the ends ignored. -/
def isOneOf (rules : List Line) (line : Line) : Bool :=
  rules.any fun rule => Text.trim line == Text.trim rule

def add (l : Listing) (rule : Line) : Listing :=
  if l.lines.any (isOneOf [rule]) then l else { l with lines := l.lines ++ [rule] }

def drop (l : Listing) (rules : List Line) : Listing :=
  { l with lines := l.lines.filter fun line => !isOneOf rules line }

def after (l : Listing) : Call → Listing
  | .enable => { l with active := true }
  | .disable => { l with active := false }
  | .expose d => (ruleLines d).foldl add l
  | .withdraw d => l.drop (ruleLines d)

def afterAll (l : Listing) (calls : List Call) : Listing := calls.foldl after l

def inside (l : Listing) : List Line := l.lines.map (shown l.active)

/-- The text of a rule file that shows the listing between these lines. -/
def text (l : Listing) (before after : List Line) : String :=
  String.ofList (Text.unlines (before ++ l.inside ++ after))

def status (l : Listing) : Status where
  active := l.active
  rules := (l.inside.filter fun line => !(Text.trim line).isEmpty).map String.ofList

/-- The switch can be read off the lines, now and whatever of some rules comes or goes: one
    filled line is none of them. -/
structure Sound (rules : List Line) (l : Listing) : Prop where
  tidy : ∀ line ∈ l.lines, Tidy line
  anchored : ∃ line ∈ l.lines, Text.trim line ≠ [] ∧ isOneOf rules line = false

/-- Lines around a block: the sentinels and what is not ours. -/
structure Frames (before after : List Line) : Prop where
  delimits : Block.usual.Delimits ⟨before, [], after⟩
  oneLine : ∀ line ∈ before ++ after, '\n' ∉ line

variable {l : Listing} {rules : List Line} {before after : List Line}

theorem isOneOf_cons (rule : Line) (rules : List Line) (line : Line) :
    isOneOf (rule :: rules) line = (isOneOf [rule] line || isOneOf rules line) := by
  simp [isOneOf]

theorem isOneOf_of_subset {rules' : List Line} (h : rules' ⊆ rules) {line : Line}
    (hline : isOneOf rules line = false) : isOneOf rules' line = false := by
  unfold isOneOf at hline ⊢
  rw [List.any_eq_false] at hline ⊢
  intro rule hrule
  exact hline rule (h hrule)

theorem drop_nil (l : Listing) : l.drop [] = l := by
  simp [drop, isOneOf]

theorem drop_cons (l : Listing) (rule : Line) (rules : List Line) :
    l.drop (rule :: rules) = (l.drop [rule]).drop rules := by
  unfold drop
  rw [List.filter_filter]
  congr 1
  apply List.filter_congr
  intro line _
  rw [isOneOf_cons rule rules line, Bool.not_or, Bool.and_comm]

/-! ### What calls leave as it is -/

theorem Sound.setActive (h : l.Sound rules) (active : Bool) :
    ({ l with active := active } : Listing).Sound rules := ⟨h.tidy, h.anchored⟩

theorem Sound.add (h : l.Sound rules) {rule : Line} (hrule : Tidy rule) :
    (l.add rule).Sound rules := by
  unfold Listing.add
  split
  · exact h
  · obtain ⟨line, hline, hanchor⟩ := h.anchored
    constructor
    · intro x hx
      rcases List.mem_append.1 hx with hx | hx
      · exact h.tidy x hx
      · rw [List.mem_singleton.1 hx]
        exact hrule
    · exact ⟨line, List.mem_append_left _ hline, hanchor⟩

theorem Sound.addAll (h : l.Sound rules) {added : List Line} (hadded : ∀ rule ∈ added, Tidy rule) :
    (added.foldl Listing.add l).Sound rules := by
  induction added generalizing l with
  | nil => exact h
  | cons rule rest ih =>
    apply ih (h.add (hadded rule List.mem_cons_self))
    intro x hx
    exact hadded x (List.mem_cons_of_mem rule hx)

theorem Sound.drop (h : l.Sound rules) {dropped : List Line} (hdropped : dropped ⊆ rules) :
    (l.drop dropped).Sound rules := by
  obtain ⟨line, hline, hne, hanchor⟩ := h.anchored
  constructor
  · intro x hx
    exact h.tidy x (List.mem_filter.1 hx).1
  · have hkept : isOneOf dropped line = false := isOneOf_of_subset hdropped hanchor
    exact ⟨line, List.mem_filter.2 ⟨hline, by rw [hkept]; rfl⟩, hne, hanchor⟩

/-! ### Edits of a text that shows a listing -/

theorem notMem_of_mem_lines (hframes : Frames before after) (htidy : ∀ line ∈ l.lines, Tidy line) :
    ∀ line ∈ before ++ l.inside ++ after, '\n' ∉ line := by
  intro x hx
  rcases List.mem_append.1 hx with hx | hx
  · rcases List.mem_append.1 hx with hx | hx
    · exact hframes.oneLine x (List.mem_append_left after hx)
    · obtain ⟨line, hline, rfl⟩ := List.mem_map.1 hx
      exact (htidy line hline).notMem_shown l.active
  · exact hframes.oneLine x (List.mem_append_right before hx)

theorem Frames.delimits_inside (hframes : Frames before after)
    (htidy : ∀ line ∈ l.lines, Tidy line) :
    Block.usual.Delimits ⟨before, l.inside, after⟩ := by
  apply hframes.delimits.edit
  intro x hx
  obtain ⟨line, hline, rfl⟩ := List.mem_map.1 hx
  exact (htidy line hline).isSentinel_shown l.active

theorem Frames.locate_text (hframes : Frames before after) (htidy : ∀ line ∈ l.lines, Tidy line) :
    Block.usual.locate (Text.lines (l.text before after).toList)
      = some ⟨before, l.inside, after⟩ := by
  unfold text
  rw [String.toList_ofList]
  exact (hframes.delimits_inside htidy).locate_unlines (notMem_of_mem_lines hframes htidy)

theorem Frames.mapInside_text (hframes : Frames before after)
    (htidy : ∀ line ∈ l.lines, Tidy line) (f : List Line → List Line) :
    Block.usual.mapInside f (l.text before after).toList
      = Text.unlines (before ++ f l.inside ++ after) := by
  unfold text
  rw [String.toList_ofList]
  exact (hframes.delimits_inside htidy).mapInside_unlines (notMem_of_mem_lines hframes htidy) f

/-- **The switch is read off the lines.** -/
theorem Sound.isInactive (h : l.Sound rules) :
    Block.usual.isInactive ⟨before, l.inside, after⟩ = !l.active := by
  have hfilled : ∀ line ∈ l.lines, Text.trim (shown l.active line) ≠ [] →
      Block.usual.isLineCommented (shown l.active line) = !l.active := by
    intro line hline hne
    have htidy := h.tidy line hline
    exact htidy.isLineCommented_shown (mt (htidy.trim_shown_eq_nil_iff l.active).2 hne) l.active
  obtain ⟨line, hline, hne, -⟩ := h.anchored
  have hshown : Text.trim (shown l.active line) ≠ [] :=
    mt ((h.tidy line hline).trim_shown_eq_nil_iff l.active).1 hne
  unfold Block.isInactive Block.Located.filled inside
  rw [Bool.eq_iff_iff, List.all_eq_true]
  constructor
  · intro hall
    have hmem : shown l.active line ∈ (l.lines.map (shown l.active)).filter
        fun x => !(Text.trim x).isEmpty := by
      rw [List.mem_filter]
      exact ⟨List.mem_map_of_mem hline, by simpa using hshown⟩
    rw [← hfilled line hline hshown]
    exact hall _ hmem
  · intro hoff x hx
    obtain ⟨hmem, hx⟩ := List.mem_filter.1 hx
    obtain ⟨line, hline, rfl⟩ := List.mem_map.1 hmem
    rw [hfilled line hline (by simpa using hx)]
    exact hoff

theorem Sound.toggled_text (h : l.Sound rules) (hframes : Frames before after) (off : Bool) :
    Block.usual.toggled off (l.text before after)
      = ({ l with active := !off } : Listing).text before after := by
  have hinside : l.inside.map (if off then Block.usual.commentLine else Block.usual.uncommentLine)
      = l.lines.map (shown !off) := by
    unfold inside
    rw [List.map_map]
    apply List.map_congr_left
    intro line hline
    cases off with
    | true => exact (h.tidy line hline).commentLine_shown l.active
    | false => exact (h.tidy line hline).uncommentLine_shown l.active
  unfold Block.toggled Block.setCommented
  rw [hframes.mapInside_text h.tidy, hinside]
  rfl

theorem Sound.matchesRule_inside (h : l.Sound rules) {line rule : Line} (hline : line ∈ l.lines)
    (hrule : Tidy rule) :
    Block.usual.matchesRule rule (shown l.active line) = isOneOf [rule] line := by
  rw [(h.tidy line hline).matchesRule_shown hrule]
  simp [isOneOf]

theorem Sound.any_inside (h : l.Sound rules) {rule : Line} (hrule : Tidy rule) :
    l.inside.any (Block.usual.matchesRule rule) = l.lines.any (isOneOf [rule]) := by
  unfold inside
  rw [List.any_map, Bool.eq_iff_iff, List.any_eq_true, List.any_eq_true]
  apply exists_congr
  intro line
  apply and_congr_right
  intro hline
  rw [Function.comp_apply, h.matchesRule_inside hline hrule]

/-- A rule that is added reads as the other lines do. -/
theorem Sound.withRule_text (h : l.Sound rules) (hframes : Frames before after) {rule : String}
    (hrule : IsRule rule.toList) :
    Block.usual.withRule (l.text before after) rule
      = .ok ((l.add rule.toList).text before after) := by
  have hany := h.any_inside hrule.tidy
  unfold Block.withRule Block.addRule
  rw [hframes.locate_text h.tidy]
  simp only [hany, h.isInactive, hrule.trimmed]
  unfold Listing.add
  by_cases hthere : l.lines.any (isOneOf [rule.toList]) = true
  · simp only [if_pos hthere, String.ofList_toList]
  · have hshown : (if (!l.active) = true then Block.usual.withMarker rule.toList else rule.toList)
        = shown l.active rule.toList := by
      cases l.active with
      | true => exact (shown_true _).symm
      | false => exact (shown_false hrule.trim_ne_nil).symm
    simp only [if_neg hthere, hshown]
    simp [text, inside, Located.lines]

theorem Sound.withRules_text (h : l.Sound rules) (hframes : Frames before after)
    {added : List String} (hadded : ∀ rule ∈ added, IsRule rule.toList) :
    Block.usual.withRules added (l.text before after)
      = .ok (((added.map String.toList).foldl Listing.add l).text before after) := by
  unfold Block.withRules
  induction added generalizing l with
  | nil => rfl
  | cons rule rest ih =>
    have hrule := hadded rule List.mem_cons_self
    rw [List.foldlM_cons, h.withRule_text hframes hrule, Except.ok_bind]
    apply ih (h.add hrule.tidy)
    intro x hx
    exact hadded x (List.mem_cons_of_mem rule hx)

theorem Sound.withoutRule_text (h : l.Sound rules) (hframes : Frames before after) {rule : String}
    (hrule : Tidy rule.toList) :
    Block.usual.withoutRule (l.text before after) rule
      = (l.drop [rule.toList]).text before after := by
  have hinside : l.inside.filter (fun line => !Block.usual.matchesRule rule.toList line)
      = (l.drop [rule.toList]).inside := by
    unfold inside Listing.drop
    rw [List.filter_map]
    congr 1
    apply List.filter_congr
    intro line hline
    rw [Function.comp_apply, h.matchesRule_inside hline hrule]
  unfold Block.withoutRule Block.removeRule
  rw [hframes.mapInside_text h.tidy, hinside]
  rfl

theorem Sound.withoutRules_text (h : l.Sound rules) (hframes : Frames before after)
    {dropped : List String} (hdropped : ∀ rule ∈ dropped, Tidy rule.toList)
    (hsub : dropped.map String.toList ⊆ rules) :
    Block.usual.withoutRules dropped (l.text before after)
      = (l.drop (dropped.map String.toList)).text before after := by
  unfold Block.withoutRules
  induction dropped generalizing l with
  | nil => rw [List.map_nil, drop_nil, List.foldl_nil]
  | cons rule rest ih =>
    rw [List.map_cons, List.cons_subset] at hsub
    have hkept : (l.drop [rule.toList]).Sound rules := h.drop (by simpa using hsub.1)
    rw [List.foldl_cons, h.withoutRule_text hframes (hdropped rule List.mem_cons_self),
      List.map_cons, drop_cons l rule.toList (rest.map String.toList)]
    apply ih hkept
    · intro x hx
      exact hdropped x (List.mem_cons_of_mem rule hx)
    · exact hsub.2

theorem Sound.status_text (h : l.Sound rules) (hframes : Frames before after) :
    Block.usual.status (l.text before after) = l.status := by
  unfold Block.status Block.isCommented Block.filledLines
  rw [hframes.locate_text h.tidy]
  simp only [h.isInactive, Bool.not_not]
  rfl

end Listing

/-! ### Calls -/

/-- A rule file whose steps do not fail: reading gives the text, and only writing changes it. -/
structure RuleFile.Steady {σ : Type} (file : RuleFile σ) (text : σ → String) : Prop where
  guard : ∀ s, ∃ s', file.guard.result s = (.ok (), s') ∧ text s' = text s
  read : ∀ s, ∃ s', file.read.result s = (.ok (text s), s') ∧ text s' = text s
  write : ∀ s t, ∃ s', (file.write t).result s = (.ok (), s') ∧ text s' = t
  reload : ∀ s, ∃ s', file.reload.result s = (.ok (), s') ∧ text s' = text s

variable {σ : Type} {text : σ → String}

/-- An update writes what the text becomes, and answers whether that is another one. -/
theorem RuleFile.Steady.update {file : RuleFile σ} (hf : file.Steady text)
    {transform : String → Except Fault String} {s : σ} {t : String}
    (ht : transform (text s) = .ok t) :
    ∃ s', (file.update transform).result s = (.ok (decide (t ≠ text s)), s') ∧ text s' = t := by
  obtain ⟨s₁, hguard, hs₁⟩ := hf.guard s
  obtain ⟨s₂, hread, hs₂⟩ := hf.read s₁
  rw [hs₁] at hread hs₂
  have htransform : (Effect.ofExcept (transform (text s)) : Effect σ Fault String).result s₂
      = (.ok t, s₂) := by
    rw [ht]
    rfl
  have hedit : (file.edit transform).result s
      = (if t = text s then pure false else do file.write t; pure true : Effect σ Fault Bool).result
          s₂ := by
    unfold RuleFile.edit
    rw [Effect.bind_of_ok hguard, Effect.bind_of_ok hread, Effect.bind_of_ok htransform]
  unfold RuleFile.update
  by_cases hsame : t = text s
  · rw [if_pos hsame] at hedit
    refine ⟨s₂, ?_, hs₂.trans hsame.symm⟩
    rw [decide_eq_false (not_not.2 hsame)]
    exact Effect.bind_of_ok hedit _
  · rw [if_neg hsame] at hedit
    obtain ⟨s₃, hwrite, hs₃⟩ := hf.write s₂ t
    obtain ⟨s₄, hreload, hs₄⟩ := hf.reload s₃
    rw [Effect.bind_of_ok hwrite] at hedit
    refine ⟨s₄, ?_, hs₄.trans hs₃⟩
    rw [decide_eq_true hsame, Effect.bind_of_ok hedit, if_pos rfl]
    exact Effect.bind_of_ok hreload _

def Call.ruleLines : Call → List Line
  | .enable | .disable => []
  | .expose d | .withdraw d => Perimeter.ruleLines d

/-- A call about a guest with a name that can be used and an address. -/
def Call.Usable : Call → Prop
  | .enable | .disable => True
  | .expose d | .withdraw d => Role.checkName d.vmName = .ok () ∧ d.privateIp.isSome = true

namespace Service

variable {svc : Service σ} {l : Listing} {rules : List Line} {before after : List Line}

/-- **One call on the text is one call on the listing.** -/
theorem run_text (hf : svc.file.Steady text) (hb : svc.block = {}) (h : l.Sound rules)
    (hframes : Listing.Frames before after) {s : σ} (hs : text s = l.text before after) {c : Call}
    (hc : c.Usable) (hrules : c.ruleLines ⊆ rules) :
    ∃ s', (svc.run c).result s
        = (.ok (decide ((l.after c).text before after ≠ l.text before after)), s') ∧
      text s' = (l.after c).text before after := by
  have hblock : svc.block = Block.usual := hb
  cases c with
  | enable =>
    rw [← hs]
    apply hf.update
    rw [hs, hblock, h.toggled_text hframes]
    rfl
  | disable =>
    rw [← hs]
    apply hf.update
    rw [hs, hblock, h.toggled_text hframes]
    rfl
  | expose d =>
    obtain ⟨rs, hrs, hlines, hrule⟩ := exists_rules_eq hc.1 hc.2
    rw [run, expose, hrs, Effect.bind_of_ok (Effect.result_ofExcept _ s), ← hs]
    apply hf.update
    rw [hs, hblock, h.withRules_text hframes hrule, ← hlines]
    rfl
  | withdraw d =>
    obtain ⟨rs, hrs, hlines, hrule⟩ := exists_rules_eq hc.1 hc.2
    rw [run, withdraw, hrs, Effect.bind_of_ok (Effect.result_ofExcept _ s), ← hs]
    apply hf.update
    rw [hs, hblock, h.withoutRules_text hframes fun rule hmem => (hrule rule hmem).tidy]
    · rw [← hlines]
      rfl
    · rw [← hlines]
      exact hrules

theorem sound_after (h : l.Sound rules) {c : Call} (hc : c.Usable) (hrules : c.ruleLines ⊆ rules) :
    (l.after c).Sound rules := by
  cases c with
  | enable => exact h.setActive true
  | disable => exact h.setActive false
  | expose d =>
    obtain ⟨rs, -, hlines, hrule⟩ := exists_rules_eq hc.1 hc.2
    apply h.addAll
    intro line hline
    rw [hlines] at hline
    obtain ⟨rule, hmem, rfl⟩ := List.mem_map.1 hline
    exact (hrule rule hmem).tidy
  | withdraw d => exact h.drop hrules

/-- **A run on the text is a run on the listing.** -/
theorem after_text (hf : svc.file.Steady text) (hb : svc.block = {})
    (hframes : Listing.Frames before after) {calls : List Call}
    (hcalls : ∀ c ∈ calls, c.Usable ∧ c.ruleLines ⊆ rules) (h : l.Sound rules) {s : σ}
    (hs : text s = l.text before after) :
    text (svc.after s calls) = (l.afterAll calls).text before after ∧
      (l.afterAll calls).Sound rules := by
  induction calls generalizing l s with
  | nil => exact ⟨hs, h⟩
  | cons c rest ih =>
    obtain ⟨hc, hrules⟩ := hcalls c List.mem_cons_self
    obtain ⟨s', hrun, hs'⟩ := run_text hf hb h hframes hs hc hrules
    have hrest : svc.after s (c :: rest) = svc.after s' rest := by
      unfold Service.after
      rw [List.foldl_cons, hrun]
    rw [hrest]
    exact ih (fun x hx => hcalls x (List.mem_cons_of_mem c hx)) (sound_after h hc hrules) hs'

end Service

/-- A text with a block shows the lines of the block. -/
theorem text_eq_of_locate {s : String} {found : Located}
    (h : Block.usual.locate (Text.lines s.toList) = some found) :
    s = (⟨true, found.inside⟩ : Listing).text found.before found.after ∧
      Listing.Frames found.before found.after ∧ ∀ line ∈ found.inside, '\n' ∉ line := by
  obtain ⟨-, hdelimits⟩ := Block.locate_eq_some_iff.1 h
  have honeLine := Block.notMem_of_locate h
  have hinside : (⟨true, found.inside⟩ : Listing).inside = found.inside :=
    List.map_id'' shown_true found.inside
  refine ⟨?_, ⟨hdelimits.edit nofun, ?_⟩, ?_⟩
  · unfold Listing.text
    rw [hinside]
    exact (Block.ofList_of_locate h).symm
  · intro line hline
    apply honeLine
    simp only [Located.lines, List.mem_append] at hline ⊢
    tauto
  · intro line hline
    apply honeLine
    simp [Located.lines, hline]

namespace Service

/-- **The rule file shows the listing** at every point of a run of calls: the lines of the block
    as the switch has them, between the lines that were around the block before.  The status is
    that of the listing, and a call answers whether it makes the text another one. -/
theorem shows_listing {svc : Service σ} (hf : svc.file.Steady text) (hb : svc.block = {}) {s : σ}
    {found : Located} (hfound : ({} : Block).locate (Text.lines (text s).toList) = some found)
    (hlines : ∀ line ∈ found.inside, Text.trim line ≠ [] →
      Text.trimStart line = line ∧ ({} : Block).isLineCommented line = false)
    {calls : List Call} (hcalls : ∀ c ∈ calls, c.Usable)
    (hanchor : ∃ line ∈ found.inside, Text.trim line ≠ [] ∧
      ∀ c ∈ calls, ∀ rule ∈ c.ruleLines, Text.trim line ≠ Text.trim rule) :
    ∀ done rest, calls = done ++ rest →
      let listing := Listing.afterAll ⟨true, found.inside⟩ done
      text (svc.after s done) = listing.text found.before found.after ∧
        (svc.status.result (svc.after s done)).1 = .ok listing.status ∧
        ∀ c ∈ rest.head?, ((svc.run c).result (svc.after s done)).1
          = .ok (decide ((listing.after c).text found.before found.after
              ≠ listing.text found.before found.after)) := by
  intro done rest hsplit listing
  obtain ⟨hs, hframes, honeLine⟩ := text_eq_of_locate hfound
  have hrules : ∀ c ∈ calls, c.ruleLines ⊆ calls.flatMap Call.ruleLines := by
    intro c hc rule hrule
    exact List.mem_flatMap.2 ⟨c, hc, hrule⟩
  have hsound : (⟨true, found.inside⟩ : Listing).Sound (calls.flatMap Call.ruleLines) := by
    constructor
    · intro line hline
      exact ⟨honeLine line hline, fun hne => (hlines line hline hne).1,
        fun hne => (hlines line hline hne).2⟩
    · obtain ⟨line, hline, hne, hanchor⟩ := hanchor
      refine ⟨line, hline, hne, ?_⟩
      unfold Listing.isOneOf
      rw [List.any_eq_false]
      intro rule hrule
      obtain ⟨c, hc, hrule⟩ := List.mem_flatMap.1 hrule
      simpa using hanchor c hc rule hrule
  have hdone : ∀ c ∈ done, c.Usable ∧ c.ruleLines ⊆ calls.flatMap Call.ruleLines := by
    intro c hc
    have hmem : c ∈ calls := hsplit ▸ List.mem_append_left rest hc
    exact ⟨hcalls c hmem, hrules c hmem⟩
  obtain ⟨htext, hnow⟩ := after_text hf hb hframes hdone hsound hs
  refine ⟨htext, ?_, ?_⟩
  · obtain ⟨s', hread, -⟩ := hf.read (svc.after s done)
    unfold status
    rw [Effect.bind_of_ok hread, htext, hb]
    exact congrArg Except.ok (hnow.status_text hframes)
  · intro c hc
    have hmem : c ∈ calls := hsplit ▸ List.mem_append_right done (List.mem_of_mem_head? hc)
    obtain ⟨s', hrun, -⟩ := run_text hf hb hnow hframes htext (hcalls c hmem) (hrules c hmem)
    rw [hrun]

end Service

/-! ### A listing for examples -/

theorem RuleFile.steady_inMemory :
    (RuleFile.inMemory fun _ => false).Steady fun s => s.1.text where
  guard := fun _ => ⟨_, rfl, rfl⟩
  read := fun _ => ⟨_, rfl, rfl⟩
  write := fun _ _ => ⟨_, rfl, rfl⟩
  reload := fun _ => ⟨_, rfl, rfl⟩

/-- The default block in a rule file that never fails. -/
def Service.quiet : Service (View × Nat) where
  block := {}
  file := .inMemory fun _ => false

def View.served : View where
  text := "*filter\n#KVM_GO_START\n*nat\n\nCOMMIT\n#KVM_GO_END\n"
  loaded := "*filter\n#KVM_GO_START\n*nat\n\nCOMMIT\n#KVM_GO_END\n"

def Located.served : Located where
  before := ["*filter".toList, "#KVM_GO_START".toList]
  inside := ["*nat".toList, [], "COMMIT".toList]
  after := ["#KVM_GO_END".toList, []]

/-- A guest is exposed while the block is off, and the block is switched on. -/
theorem Service.shows_listing_quiet :
    let exposed := [Call.disable, .expose (Declaration.spark ⟨192, 168, 1, 194⟩)]
    ({} : Block).locate (Text.lines View.served.text.toList) = some Located.served ∧
      (quiet.after (View.served, 0) exposed).1.text
        = (Listing.afterAll ⟨true, Located.served.inside⟩ exposed).text Located.served.before
            Located.served.after ∧
      ((quiet.run .enable).result (quiet.after (View.served, 0) exposed)).1 = .ok true := by
  intro exposed
  have hfound : ({} : Block).locate (Text.lines View.served.text.toList) = some Located.served := by
    decide +kernel
  have hlines : ∀ line ∈ Located.served.inside, Text.trim line ≠ [] →
      Text.trimStart line = line ∧ ({} : Block).isLineCommented line = false := by
    decide +kernel
  have husable : ∀ c ∈ exposed ++ [Call.enable], c.Usable := by
    have hspark : (Call.expose (Declaration.spark ⟨192, 168, 1, 194⟩)).Usable :=
      ⟨by decide +kernel, rfl⟩
    simp only [exposed, List.cons_append, List.nil_append, List.forall_mem_cons]
    exact ⟨trivial, hspark, trivial, nofun⟩
  have hanchor : ∃ line ∈ Located.served.inside, Text.trim line ≠ [] ∧
      ∀ c ∈ exposed ++ [Call.enable], ∀ rule ∈ c.ruleLines, Text.trim line ≠ Text.trim rule := by
    decide +kernel
  have hfile : quiet.file.Steady fun s => s.1.text := RuleFile.steady_inMemory
  obtain ⟨htext, -, hanswer⟩ := shows_listing hfile rfl (s := (View.served, 0)) hfound hlines
    husable hanchor exposed [.enable] rfl
  refine ⟨hfound, htext, (hanswer .enable rfl).trans ?_⟩
  decide +kernel

end GuestPorts.Perimeter
