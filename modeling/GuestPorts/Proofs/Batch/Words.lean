/-
  GuestPorts/Proofs/Batch/Words.lean
  ==================================
  **Which batches can be read back from the lines that show them.**

  A command is shown with one blank between its words and nothing else, and every command is
  on a line of its own.  So the lines say which commands they show if and only if no word has a
  blank or a line feed in it (`Batch.readsBack_commandsText_iff`).  Names of chains, addresses,
  ports and fixed words have none.  The name of an interface is any text, so it decides for
  the whole batch (`Declaration.unbroken_compile_iff`).
-/
import GuestPorts.Hook.Event
import GuestPorts.Proofs.Batch.Event
import GuestPorts.Proofs.Chain.Length
import GuestPorts.Proofs.Perimeter.Reach

namespace GuestPorts

open Perimeter (Plain plain_of_allowed plain_of_isDigit plain_of_mem_asMatch
  plain_of_mem_asTarget plain_of_mem_text)

/-! ### Words and lines -/

/-- A word without blanks and line feeds. -/
def Text.Unbroken (w : String) : Prop := ' ' ∉ w.toList ∧ '\n' ∉ w.toList

instance (w : String) : Decidable (Text.Unbroken w) :=
  inferInstanceAs (Decidable (' ' ∉ w.toList ∧ '\n' ∉ w.toList))

theorem Text.unbroken_of_plain {w : String} (h : ∀ c ∈ w.toList, Plain c) : Unbroken w :=
  ⟨fun hblank => (h _ hblank).2.1 rfl, fun hfeed => (h _ hfeed).1.2.2 rfl⟩

theorem Text.Unbroken.append {v w : String} (hv : Unbroken v) (hw : Unbroken w) :
    Unbroken (v ++ w) := by
  unfold Unbroken
  simp only [String.toList_append, List.mem_append, not_or]
  exact ⟨⟨hv.1, hw.1⟩, hv.2, hw.2⟩

/-- A command whose words are unbroken. -/
def Command.Unbroken (c : Command) : Prop := ∀ w ∈ c.argv, Text.Unbroken w

instance (c : Command) : Decidable c.Unbroken :=
  inferInstanceAs (Decidable (∀ w ∈ c.argv, Text.Unbroken w))

theorem Command.toList_render (program : String) (c : Command) :
    (c.render program).toList
      = Text.join [' '] (program.toList :: c.argv.map String.toList) := by
  simp [render, Text.joined]

namespace Batch

def wordsOf (program : String) (c : Command) : List (List Char) :=
  Text.splitAt ' ' program.toList ++ c.argv.map String.toList

/-- A text has one line for each command, and the words on the line are those of the program
    and the arguments of the command.  The last line is ended as well. -/
def ReadsBack (program : String) (batch : Batch) (text : String) : Prop :=
  ∃ lines, Text.lines text.toList = lines ++ [[]] ∧
    lines.map (Text.splitAt ' ') = batch.map (wordsOf program)

variable {program : String} {batch : Batch}

theorem lines_commandsText (hne : batch ≠ []) :
    Text.lines (Audit.commandsText (batch.render program)).toList
      = (batch.flatMap fun c => Text.lines (c.render program).toList) ++ [[]] := by
  have htext : (Audit.commandsText (batch.render program)).toList
      = Text.join ['\n'] (batch.map fun c => (c.render program).toList) ++ ['\n'] := by
    simp [Audit.commandsText, Text.joined, render, Function.comp_def]
  unfold Text.lines
  rw [htext, Text.splitAt_append, Text.splitAt_join_eq_flatMap (by simpa using hne),
    List.flatMap_map]
  rfl

theorem words_of_unbroken {c : Command} (hprogram : '\n' ∉ program.toList) (hc : c.Unbroken) :
    (Text.lines (c.render program).toList).map (Text.splitAt ' ') = [wordsOf program c] := by
  have hwords : ∀ w ∈ c.argv.map String.toList, ' ' ∉ w ∧ '\n' ∉ w := by
    simp only [List.mem_map, forall_exists_index, and_imp]
    rintro - w hw rfl
    exact hc w hw
  have hline : '\n' ∉ (c.render program).toList := by
    rw [Command.toList_render, Text.mem_join_iff (by decide)]
    rintro ⟨piece, hpiece, hmem⟩
    rcases List.mem_cons.1 hpiece with rfl | hpiece
    · exact hprogram hmem
    · exact (hwords piece hpiece).2 hmem
  have hsplit : Text.splitAt ' ' (c.render program).toList = wordsOf program c := by
    rw [Command.toList_render, Text.splitAt_join_eq_flatMap (List.cons_ne_nil _ _),
      List.flatMap_cons, Text.flatMap_splitAt_of_notMem fun w hw => (hwords w hw).1]
    rfl
  rw [Text.lines, Text.splitAt_of_notMem hline, List.map_singleton, hsplit]

/-- What a line is split into has no separator in it. -/
theorem unbroken_of_words {line : List Char} (hline : '\n' ∉ line) {c : Command}
    (h : Text.splitAt ' ' line = wordsOf program c) :
    '\n' ∉ program.toList ∧ c.Unbroken := by
  have hpiece : ∀ piece ∈ wordsOf program c, ' ' ∉ piece ∧ '\n' ∉ piece := by
    intro piece hpiece
    rw [← h] at hpiece
    exact ⟨Text.notMem_of_mem_splitAt hpiece, fun hmem =>
      hline ((Text.exists_mem_splitAt_iff (by decide)).1 ⟨piece, hpiece, hmem⟩)⟩
  constructor
  · intro hmem
    obtain ⟨piece, hword, hmem⟩ := (Text.exists_mem_splitAt_iff (show '\n' ≠ ' ' by decide)).2 hmem
    exact (hpiece piece (List.mem_append_left _ hword)).2 hmem
  · intro w hw
    exact hpiece w.toList (List.mem_append_right _ (List.mem_map_of_mem hw))

/-- **A batch is read back from its lines if and only if its words are unbroken.** -/
theorem readsBack_commandsText_iff (hne : batch ≠ []) :
    ReadsBack program batch (Audit.commandsText (batch.render program))
      ↔ '\n' ∉ program.toList ∧ ∀ c ∈ batch, c.Unbroken := by
  constructor
  · rintro ⟨lines, hlines, hwords⟩
    have hfeed : ∀ line ∈ lines, '\n' ∉ line := fun line hline =>
      Text.notMem_of_mem_splitAt (hlines ▸ List.mem_append_left _ hline)
    have hall : ∀ c ∈ batch, '\n' ∉ program.toList ∧ c.Unbroken := by
      intro c hc
      have hmem : wordsOf program c ∈ lines.map (Text.splitAt ' ') :=
        hwords ▸ List.mem_map_of_mem hc
      obtain ⟨line, hline, hsplit⟩ := List.mem_map.1 hmem
      exact unbroken_of_words (hfeed line hline) hsplit
    obtain ⟨c, hc⟩ := List.exists_mem_of_ne_nil batch hne
    exact ⟨(hall c hc).1, fun c hc => (hall c hc).2⟩
  · rintro ⟨hprogram, hall⟩
    refine ⟨_, lines_commandsText hne, ?_⟩
    rw [List.map_flatMap]
    calc batch.flatMap (fun c => (Text.lines (c.render program).toList).map (Text.splitAt ' '))
        = batch.flatMap (fun c => [wordsOf program c]) :=
          List.flatMap_congr fun c hc => words_of_unbroken hprogram (hall c hc)
      _ = batch.map (wordsOf program) := List.map_eq_flatMap.symm

end Batch

/-! ### The words of a compiled batch -/

/-- **The names of a guest's chains are unbroken.** -/
theorem Role.unbroken_text {vmName : String} (hname : checkName vmName = .ok ()) (role : Role) :
    Text.Unbroken (role.text vmName) :=
  Text.unbroken_of_plain fun _ hc =>
    plain_of_allowed (allowed_of_mem_text (checkName_eq_ok_iff.1 hname) hc)

theorem Address.unbroken_text (ip : Address) : Text.Unbroken ip.text :=
  Text.unbroken_of_plain fun _ => plain_of_mem_text

theorem Ports.unbroken_asMatch (ports : Ports) : Text.Unbroken ports.asMatch :=
  Text.unbroken_of_plain fun _ => plain_of_mem_asMatch

theorem Ports.unbroken_asTarget (ports : Ports) : Text.Unbroken ports.asTarget :=
  Text.unbroken_of_plain fun _ => plain_of_mem_asTarget

theorem Protocol.unbroken_word (protocol : Protocol) : Text.Unbroken protocol.word := by
  cases protocol <;> decide

/-- The words in front of the chain are always unbroken. -/
theorem Command.unbroken_iff {c : Command} :
    c.Unbroken ↔ Text.Unbroken c.chain ∧ ∀ w ∈ c.args, Text.Unbroken w := by
  have hoption : Text.Unbroken "-t" := by decide
  have htable : Text.Unbroken c.table.word := by cases c.table <;> decide
  have hop : Text.Unbroken c.op.flag := by cases c.op <;> decide
  simp [Unbroken, argv, hoption, htable, hop]

def Chains.Unbroken (cs : Chains) : Prop := ∀ c ∈ cs.toList, Text.Unbroken c.name

theorem Chains.unbroken_of_ofGuest {vmName : String} {cs : Chains} (h : ofGuest vmName = .ok cs) :
    cs.Unbroken := by
  have hname := checkName_of_ofGuest h
  rw [eq_named_of_ofGuest h]
  intro c hc
  simp only [toList, named, List.mem_cons, List.not_mem_nil, or_false] at hc
  rcases hc with rfl | rfl | rfl <;> exact Role.unbroken_text hname _

namespace Batch

variable {cs : Chains}

theorem unbroken_create (hcs : cs.Unbroken) : ∀ c ∈ create cs, c.Unbroken := by
  simp only [create, List.forall_mem_map]
  exact fun c hc => Command.unbroken_iff.2 ⟨hcs c hc, List.forall_mem_nil _⟩

theorem unbroken_destroy (hcs : cs.Unbroken) : ∀ c ∈ destroy cs, c.Unbroken := by
  simp only [destroy, List.mem_flatMap, forall_exists_index, and_imp]
  intro command c hc hcommand
  simp only [List.mem_cons, List.not_mem_nil, or_false] at hcommand
  rcases hcommand with rfl | rfl <;>
    exact Command.unbroken_iff.2 ⟨hcs c hc, List.forall_mem_nil _⟩

theorem unbroken_link (hcs : cs.Unbroken) (host guest : Address) (op : ChainOp) :
    ∀ c ∈ link cs host guest op, c.Unbroken := by
  have hfixed : ∀ w ∈ ["OUTPUT", "PREROUTING", "POSTROUTING", "FORWARD", "-d", "-s", "-j"],
      Text.Unbroken w := by decide
  simp only [List.forall_mem_cons] at hfixed
  simp only [Chains.Unbroken, Chains.toList, List.forall_mem_cons] at hcs
  simp only [link, jumps, List.map_cons, List.map_nil, List.forall_mem_cons, List.not_mem_nil,
    Command.unbroken_iff, Address.unbroken_text, hfixed, hcs, IsEmpty.forall_iff, implies_true,
    and_self]

namespace Plan

variable {p : Plan}

theorem unbroken_fixed : ∀ w ∈ ["-p", "-d", "-s", "-o", "--dport", "-j", "DNAT", "--to", "SNAT",
    "--to-source", "MASQUERADE", "ACCEPT"], Text.Unbroken w := by decide

/-- **Only the name of the interface can break the words of a block.** -/
theorem unbroken_block_iff (hp : p.chains.Unbroken) (f : Forward) (number : Nat) :
    (∀ c ∈ p.block f number, c.Unbroken) ↔ ∀ w ∈ p.interface, Text.Unbroken w := by
  have hfixed := unbroken_fixed
  have hendpoint : Text.Unbroken (p.guest.text ++ ":" ++ f.guest.asTarget) :=
    (p.guest.unbroken_text.append (by decide)).append f.guest.unbroken_asTarget
  have hsource : ∀ w ∈ optional "-s" (p.source.map Address.text), Text.Unbroken w := by
    cases p.source with
    | none => exact List.forall_mem_nil _
    | some ip => simp [optional, Address.unbroken_text, hfixed]
  have hinterface : (∀ w ∈ optional "-o" p.interface, Text.Unbroken w)
      ↔ ∀ w ∈ p.interface, Text.Unbroken w := by
    cases p.interface with
    | none => simp [optional]
    | some w => simp [optional, hfixed]
  simp only [Chains.Unbroken, Chains.toList, List.forall_mem_cons] at hp
  simp only [List.forall_mem_cons] at hfixed
  simp only [block, List.forall_mem_cons, Command.unbroken_iff, ingressRule, sourceRule,
    hairpinRule, acceptRule, Chain.rule, List.forall_mem_append, hp, hfixed, hendpoint,
    hinterface, Protocol.unbroken_word, Address.unbroken_text, Ports.unbroken_asMatch,
    List.not_mem_nil, IsEmpty.forall_iff, implies_true, true_and, and_true]
  exact and_iff_right hsource

theorem unbroken_blocksFrom_iff (hp : p.chains.Unbroken) (number : Nat) (fs : List Forward) :
    (∀ c ∈ p.blocksFrom number fs, c.Unbroken)
      ↔ fs = [] ∨ ∀ w ∈ p.interface, Text.Unbroken w := by
  induction fs generalizing number with
  | nil => simp [blocksFrom]
  | cons f rest ih =>
    rw [blocksFrom, List.forall_mem_append, unbroken_block_iff hp, ih]
    constructor
    · exact fun h => .inr h.1
    · rintro (h | h)
      · cases h
      · exact ⟨h, .inr h⟩

theorem unbroken_stop (hp : p.chains.Unbroken) : ∀ c ∈ p.stop, c.Unbroken :=
  List.forall_mem_append.2 ⟨unbroken_link hp _ _ _, unbroken_destroy hp⟩

theorem unbroken_start_iff (hp : p.chains.Unbroken) :
    (∀ c ∈ p.start, c.Unbroken) ↔ p.forwards = [] ∨ ∀ w ∈ p.interface, Text.Unbroken w := by
  rw [start, List.forall_mem_append, List.forall_mem_append, populate, unbroken_blocksFrom_iff hp]
  exact ⟨fun h => h.1.2, fun h => ⟨⟨unbroken_create hp, h⟩, unbroken_link hp _ _ _⟩⟩

theorem unbroken_reconnect_iff (hp : p.chains.Unbroken) :
    (∀ c ∈ p.reconnect, c.Unbroken)
      ↔ p.forwards = [] ∨ ∀ w ∈ p.interface, Text.Unbroken w := by
  rw [reconnect, List.forall_mem_append, unbroken_start_iff hp]
  exact and_iff_right (unbroken_stop hp)

end Plan

end Batch

namespace Declaration

variable {d : Declaration} {a : Action} {batch : Batch}

/-- **The words of a batch are unbroken** unless one of its rules names an interface with a
    blank or a line feed in the name. -/
theorem unbroken_compile_iff (ha : a.drivesRules = true) (h : d.compile a = .ok batch) :
    (∀ c ∈ batch, c.Unbroken)
      ↔ a = .stopped ∨ d.forwards = [] ∨ ∀ w ∈ d.interface, Text.Unbroken w := by
  obtain ⟨p, hplan, rfl⟩ := of_compile_eq_ok ha h
  obtain ⟨host, guest, -, hcs, hp⟩ := of_plan_eq_ok hplan
  have hchains := Chains.unbroken_of_ofGuest hcs
  have hforwards : p.forwards = d.forwards := congrArg Batch.Plan.forwards hp
  have hinterface : p.interface = d.interface := congrArg Batch.Plan.interface hp
  rw [← hforwards, ← hinterface]
  cases a with
  | start => simpa [Batch.Plan.batch] using Batch.Plan.unbroken_start_iff hchains
  | stopped => simpa [Batch.Plan.batch] using Batch.Plan.unbroken_stop hchains
  | reconnect => simpa [Batch.Plan.batch] using Batch.Plan.unbroken_reconnect_iff hchains
  | _ => cases ha

end Declaration

end GuestPorts
