/-
  GuestPorts/Proofs/Perimeter/Table.lean
  ======================================
  **What exposing a guest does to the table in the block.**

  The tool that restores the rules reads the block line by line: a table is opened, policies and
  rules follow, and a last line puts them into force.  Behind that line there is no table for a
  rule to go to (`IsTable`, `isTable_iff`).

  A rule is added behind the last line of the block, so it never gets into the table that the
  block holds: the block is a table still just when every rule of the guest was in it before
  (`Service.exposed_table_iff`).
-/
import GuestPorts.Proofs.Perimeter.Withdrawal

namespace GuestPorts.Perimeter

/-! ### Reading a table -/

/-- A line that is passed over: a blank one or a comment. -/
def isIdle (line : Line) : Bool :=
  (Text.trim line).isEmpty || (Text.trim line).head? == some '#'

/-- A line for the policy of a chain. -/
def isPolicy (line : Line) : Bool := (Text.trim line).head? == some ':'

def isAppend (line : Line) : Bool := "-A ".toList.isPrefixOf (Text.trim line)

def opensTable (line : Line) : Bool := Text.trim line == "*nat".toList

def closesTable (line : Line) : Bool := Text.trim line == "COMMIT".toList

/-- Where a reader of the block is. -/
inductive TablePlace where
  | before
  | within
  | behind
  deriving DecidableEq, Repr

/-- Read one line; there is no place behind a line that cannot stand there. -/
def TablePlace.read (place : TablePlace) (line : Line) : Option TablePlace :=
  if isIdle line then some place
  else match place with
    | .before => if opensTable line then some .within else none
    | .within =>
      if isPolicy line || isAppend line then some .within
      else if closesTable line then some .behind
      else none
    | .behind => none

/-- The lines are one whole table. -/
def IsTable (lines : List Line) : Prop := lines.foldlM TablePlace.read .before = some .behind

instance (lines : List Line) : Decidable (IsTable lines) :=
  inferInstanceAs (Decidable (lines.foldlM TablePlace.read .before = some .behind))

variable {lines inside added : List Line} {line rule : Line}

namespace TablePlace

theorem read_idle (h : isIdle line = true) (place : TablePlace) : place.read line = some place := by
  unfold read
  rw [if_pos h]

theorem read_before_iff {next : TablePlace} : before.read line = some next ↔
    (isIdle line = true ∧ next = .before) ∨
      (isIdle line = false ∧ opensTable line = true ∧ next = .within) := by
  unfold read
  cases isIdle line <;> cases opensTable line <;> simp [eq_comm]

theorem read_within_iff {next : TablePlace} : within.read line = some next ↔
    ((isIdle line || isPolicy line || isAppend line) = true ∧ next = .within) ∨
      ((isIdle line || isPolicy line || isAppend line) = false ∧ closesTable line = true ∧
        next = .behind) := by
  unfold read
  cases isIdle line <;> cases isPolicy line <;> cases isAppend line <;> cases closesTable line <;>
    simp [eq_comm]

/-- The reader stays where it is for some lines, and then one line takes it on. -/
theorem exists_leaving {place last : TablePlace} (hne : place ≠ last)
    (h : lines.foldlM read place = some last) : ∃ front line rest next,
      lines = front ++ line :: rest ∧ (∀ x ∈ front, place.read x = some place) ∧
        next ≠ place ∧ place.read line = some next ∧ rest.foldlM read next = some last := by
  induction lines with
  | nil => exact absurd (Option.some.inj h) hne
  | cons line rest ih =>
    rw [List.foldlM_cons, Option.bind_eq_bind, Option.bind_eq_some_iff] at h
    obtain ⟨next, hnext, hrest⟩ := h
    by_cases hstay : next = place
    · rw [hstay] at hnext hrest
      obtain ⟨front, x, more, after, rfl, hfront, hafter⟩ := ih hrest
      exact ⟨line :: front, x, more, after, rfl, List.forall_mem_cons.2 ⟨hnext, hfront⟩, hafter⟩
    · exact ⟨[], line, rest, next, rfl, nofun, hstay, hnext, hrest⟩

theorem foldlM_read_of_stays {place : TablePlace} (h : ∀ x ∈ lines, place.read x = some place) :
    lines.foldlM read place = some place := by
  induction lines with
  | nil => rfl
  | cons line rest ih =>
    obtain ⟨hline, hrest⟩ := List.forall_mem_cons.1 h
    rw [List.foldlM_cons, hline]
    exact ih hrest

/-- Behind the table every line is passed over. -/
theorem foldlM_read_behind_iff :
    lines.foldlM read .behind = some .behind ↔ ∀ line ∈ lines, isIdle line = true := by
  induction lines with
  | nil => simp
  | cons line rest ih =>
    rw [List.foldlM_cons, List.forall_mem_cons]
    cases hidle : isIdle line with
    | true =>
      rw [read_idle hidle]
      simpa using ih
    | false => simp [read, hidle]

end TablePlace

/-- **What a table is.**  One line opens it, one line behind that closes it, only policies and
    rules are between the two, and around all of these stand blank lines and comments. -/
theorem isTable_iff : IsTable lines ↔ ∃ front opening body closing back,
    lines = front ++ opening :: (body ++ closing :: back) ∧
      (∀ line ∈ front, isIdle line = true) ∧ Text.trim opening = "*nat".toList ∧
      (∀ line ∈ body, (isIdle line || isPolicy line || isAppend line) = true) ∧
      Text.trim closing = "COMMIT".toList ∧ ∀ line ∈ back, isIdle line = true := by
  unfold IsTable
  constructor
  · intro h
    obtain ⟨front, opening, rest, next, rfl, hfront, hnext, hopens, hrest⟩ :=
      TablePlace.exists_leaving (by decide) h
    obtain ⟨-, hopening, rfl⟩ :=
      (TablePlace.read_before_iff.1 hopens).resolve_left fun hstay => hnext hstay.2
    obtain ⟨body, closing, back, last, rfl, hbody, hlast, hcloses, hback⟩ :=
      TablePlace.exists_leaving (by decide) hrest
    obtain ⟨-, hclosing, rfl⟩ :=
      (TablePlace.read_within_iff.1 hcloses).resolve_left fun hstay => hlast hstay.2
    refine ⟨front, opening, body, closing, back, rfl, ?_, eq_of_beq hopening, ?_,
      eq_of_beq hclosing, TablePlace.foldlM_read_behind_iff.1 hback⟩
    · intro line hline
      simpa using TablePlace.read_before_iff.1 (hfront line hline)
    · intro line hline
      rcases TablePlace.read_within_iff.1 (hbody line hline) with ⟨hstay, -⟩ | ⟨-, -, hleft⟩
      · exact hstay
      · cases hleft
  · rintro ⟨front, opening, body, closing, back, rfl, hfront, hopening, hbody, hclosing, hback⟩
    have hopens : TablePlace.before.read opening = some .within := by
      rw [TablePlace.read_before_iff, isIdle, opensTable, hopening]
      decide
    have hcloses : TablePlace.within.read closing = some .behind := by
      rw [TablePlace.read_within_iff, isIdle, isPolicy, isAppend, closesTable, hclosing]
      decide
    have hbefore : front.foldlM TablePlace.read .before = some .before :=
      TablePlace.foldlM_read_of_stays fun line hline =>
        TablePlace.read_idle (hfront line hline) .before
    have hwithin : body.foldlM TablePlace.read .within = some .within :=
      TablePlace.foldlM_read_of_stays fun line hline =>
        TablePlace.read_within_iff.2 (.inl ⟨hbody line hline, rfl⟩)
    simp only [List.foldlM_append, List.foldlM_cons, hbefore, hopens, hwithin, hcloses,
      Option.bind_eq_bind, Option.bind_some]
    exact TablePlace.foldlM_read_behind_iff.2 hback

/-- Nothing but blank lines and comments can follow a table. -/
theorem IsTable.append_iff (h : IsTable inside) :
    IsTable (inside ++ added) ↔ ∀ line ∈ added, isIdle line = true := by
  unfold IsTable at h ⊢
  rw [List.foldlM_append, h]
  exact TablePlace.foldlM_read_behind_iff

/-- A block that holds a table is on. -/
theorem IsTable.isOff_eq_false (h : IsTable inside) : Block.isOff inside = false := by
  obtain ⟨front, opening, body, closing, back, rfl, -, hopening, -⟩ := isTable_iff.1 h
  rw [Block.isOff_eq_false_iff]
  refine ⟨opening, by simp, by simp [hopening], ?_⟩
  -- what is left of the line in front of its trailing blanks begins with the star
  obtain ⟨blanks, hblanks⟩ := Text.isPrefix_trimEnd (Text.trimStart opening)
  rw [← Text.trim, hopening] at hblanks
  rw [Block.isLineCommented, ← hblanks]
  rfl

/-! ### Exposing a guest -/

theorem isIdle_of_isRule (h : IsRule rule) : isIdle rule = false := by
  unfold isIdle
  cases htrim : Text.trim rule with
  | nil => exact absurd htrim h.trim_ne_nil
  | cons c rest =>
    have hc : c ≠ '#' := by
      rintro rfl
      exact h.tidy.trim_ne_comment rest htrim
    simp [hc]

namespace IsTable

variable {rules : List Line} (h : IsTable inside) (hrules : ∀ rule ∈ rules, IsRule rule)
include h hrules

/-- The block is on, so every line that is added is a rule as it is. -/
theorem exists_added : ∃ added, rules.foldl Block.insertRule inside = inside ++ added ∧
    ∀ line ∈ added, line ∈ rules := by
  obtain ⟨added, hadded, hshown⟩ := Block.exists_foldl_insertRule_eq hrules inside
  refine ⟨added, hadded, fun line hline => ?_⟩
  obtain ⟨rule, hrule, rfl⟩ := hshown line hline
  rwa [h.isOff_eq_false, Bool.not_false, shown_true]

/-- **A table bears no new rule.** -/
theorem foldl_insertRule_iff : IsTable (rules.foldl Block.insertRule inside) ↔
    ∀ rule ∈ rules, ∃ line ∈ inside, Block.usual.matchesRule rule line = true := by
  constructor
  · intro htable rule hrule
    obtain ⟨added, hadded, hplain⟩ := h.exists_added hrules
    obtain ⟨line, hline, hmatches⟩ :=
      Block.exists_matchesRule_foldl_insertRule hrules hrule inside
    rw [hadded] at hline htable
    rcases List.mem_append.1 hline with hold | hnew
    · exact ⟨line, hold, hmatches⟩
    · have hidle := h.append_iff.1 htable line hnew
      rw [isIdle_of_isRule (hrules line (hplain line hnew))] at hidle
      cases hidle
  · intro hthere
    rwa [Block.foldl_insertRule_of_there hthere]

end IsTable

namespace Service

variable {σ : Type} {text : σ → String} {svc : Service σ}

/-- **Exposing a guest spoils the table in the block**, unless there is nothing to add.  The call
    succeeds, and what it adds are rules of the guest, behind the line that closes the table. -/
theorem exposed_table_iff (hf : svc.file.Steady text) (hb : svc.block = {}) {s : σ}
    {found : Located} (hfound : ({} : Block).locate (Text.lines (text s).toList) = some found)
    (htable : IsTable found.inside) {d : Declaration} (hname : Role.checkName d.vmName = .ok ())
    (hip : d.privateIp.isSome = true) :
    ∃ changed s' rs added, (svc.expose d).result s = (.ok changed, s') ∧ rules d = .ok rs ∧
      ({} : Block).locate (Text.lines (text s').toList)
        = some { found with inside := found.inside ++ added } ∧
      (∀ line ∈ added, ∃ rule ∈ rs, line = rule.toList) ∧
      (IsTable (found.inside ++ added) ↔
        ∀ rule ∈ rs, ∃ line ∈ found.inside, ({} : Block).matchesRule rule.toList line = true) := by
  obtain ⟨rs, hrs, hlines, hrule⟩ := exists_rules_eq hname hip
  have hrules : ∀ rule ∈ rs.map String.toList, IsRule rule := List.forall_mem_map.2 hrule
  obtain ⟨changed, s', hresult, hnow⟩ := run_expose hf hb hfound hname hip
  obtain ⟨added, hadded, hplain⟩ := htable.exists_added hrules
  rw [hlines, hadded] at hnow
  refine ⟨changed, s', rs, added, hresult, hrs, hnow, ?_, ?_⟩
  · intro line hline
    obtain ⟨rule, hmem, rfl⟩ := List.mem_map.1 (hplain line hline)
    exact ⟨rule, hmem, rfl⟩
  · rw [← hadded, htable.foldl_insertRule_iff hrules]
    exact List.forall_mem_map

end Service

/-! ### A table for examples -/

/-- A block that holds a table with one rule. -/
def Located.table (rule : Line) : Located where
  before := ["#KVM_GO_START".toList]
  inside := ["*nat".toList, ":PREROUTING ACCEPT [0:0]".toList, rule, "COMMIT".toList]
  after := ["#KVM_GO_END".toList, []]

def View.table (rule : Line) : View where
  text := String.ofList (Text.unlines (Located.table rule).lines)
  loaded := String.ofList (Text.unlines (Located.table rule).lines)

theorem locate_table (h : Tidy rule) :
    ({} : Block).locate (Text.lines (View.table rule).text.toList) = some (Located.table rule) := by
  have hrule : Block.isSentinel ({} : Block).endMarker rule = false := by
    have hshown := h.isSentinel_shown true
    rwa [shown_true] at hshown
  have hdelimits : ({} : Block).Delimits (Located.table rule) := by
    refine ⟨⟨[], _, rfl, nofun, by decide⟩, ?_, ⟨_, _, rfl, by decide⟩⟩
    simp only [Located.table, List.forall_mem_cons, hrule]
    decide
  rw [View.table, String.toList_ofList]
  apply hdelimits.locate_unlines
  simp only [Located.lines, Located.table, List.cons_append, List.nil_append, List.forall_mem_cons]
  have honeLine := h.oneLine
  simp [honeLine]

theorem isTable_table (vmName : String) (guest : Address) (f : Forward) :
    IsTable (Located.table (ruleFor vmName guest f).toList).inside := by
  have happend : isAppend (ruleFor vmName guest f).toList = true := by
    have htrim : Text.trim (ruleFor vmName guest f).toList = _ := trim_ruleLine ..
    rw [isAppend, htrim, toList_ruleLine]
    rfl
  refine isTable_iff.2 ⟨[], _, [_, _], _, [], rfl, nofun, by decide, ?_, by decide, nofun⟩
  simp only [List.forall_mem_cons, happend, Bool.or_true]
  exact ⟨by decide, trivial, nofun⟩

def sparkRule : String := ruleFor "spark" ⟨192, 168, 122, 101⟩ ⟨.tcp, .single 1100, .single 3000⟩

def hadoopRule : String := ruleFor "hadoop" ⟨192, 168, 122, 109⟩ ⟨.tcp, .single 9999, .single 9999⟩

/-- The guest's only rule is in the table before, and nothing is added. -/
theorem Service.exposed_table_iff_present :
    let spark := Declaration.spark ⟨192, 168, 1, 194⟩
    let found := Located.table sparkRule.toList
    let view := View.table sparkRule.toList
    (({} : Block).locate (Text.lines view.text.toList) = some found ∧
        IsTable found.inside ∧ Role.checkName spark.vmName = .ok () ∧
        spark.privateIp.isSome = true) ∧
      ∃ changed s' added, (quiet.expose spark).result (view, 0) = (.ok changed, s') ∧
        ({} : Block).locate (Text.lines s'.1.text.toList)
          = some { found with inside := found.inside ++ added } ∧
        IsTable (found.inside ++ added) := by
  intro spark found view
  have hname : Role.checkName spark.vmName = .ok () := by decide +kernel
  have hfound : ({} : Block).locate (Text.lines view.text.toList) = some found :=
    locate_table (tidy_ruleFor hname ..)
  have htable : IsTable found.inside := isTable_table ..
  have hfile : quiet.file.Steady fun s => s.1.text := RuleFile.steady_inMemory
  obtain ⟨changed, s', rs, added, hresult, hrs, hnow, -, hkept⟩ :=
    exposed_table_iff hfile rfl (s := (view, 0)) hfound htable hname rfl
  obtain rfl : rs = [sparkRule] := Except.ok.inj hrs.symm
  have hthere : ∀ rule ∈ [sparkRule], ∃ line ∈ found.inside,
      ({} : Block).matchesRule rule.toList line = true := by
    intro rule hrule
    rw [List.mem_singleton.1 hrule]
    refine ⟨sparkRule.toList, by simp [found, Located.table], ?_⟩
    exact (Block.matchesRule_iff (trim_ruleLine ..)).2 (.inl (trim_ruleLine ..))
  exact ⟨⟨hfound, htable, hname, rfl⟩, changed, s', added, hresult, hnow, hkept.2 hthere⟩

/-- **The rule of a new guest lands behind the table**: the line that closes it stands between. -/
theorem Service.exposing_spoils_table :
    let spark := Declaration.spark ⟨192, 168, 1, 194⟩
    let found := Located.table hadoopRule.toList
    let view := View.table hadoopRule.toList
    (({} : Block).locate (Text.lines view.text.toList) = some found ∧
        IsTable found.inside ∧ Role.checkName spark.vmName = .ok () ∧
        spark.privateIp.isSome = true) ∧
      ∃ changed s', (quiet.expose spark).result (view, 0) = (.ok changed, s') ∧
        ({} : Block).locate (Text.lines s'.1.text.toList)
          = some { found with inside := found.inside ++ [sparkRule.toList] } ∧
        ¬ IsTable (found.inside ++ [sparkRule.toList]) := by
  intro spark found view
  have hname : Role.checkName spark.vmName = .ok () := by decide +kernel
  have hother : Role.checkName "hadoop" = .ok () := by decide +kernel
  have hfound : ({} : Block).locate (Text.lines view.text.toList) = some found :=
    locate_table (tidy_ruleFor hother ..)
  have htable : IsTable found.inside := isTable_table ..
  have hfile : quiet.file.Steady fun s => s.1.text := RuleFile.steady_inMemory
  obtain ⟨changed, s', hresult, hnow⟩ :=
    run_expose hfile rfl (s := (view, 0)) hfound hname rfl
  have hadded : (ruleLines spark).foldl Block.insertRule found.inside
      = found.inside ++ [sparkRule.toList] := by
    decide +kernel
  rw [hadded] at hnow
  refine ⟨⟨hfound, htable, hname, rfl⟩, changed, s', hresult, hnow, ?_⟩
  have hrule : IsRule sparkRule.toList := isRule_ruleFor hname ..
  rw [htable.append_iff, List.forall_mem_singleton]
  simp [isIdle_of_isRule hrule]

end GuestPorts.Perimeter
