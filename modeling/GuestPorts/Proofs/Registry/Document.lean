/-
  GuestPorts/Proofs/Registry/Document.lean
  ========================================
  **What is written for a registry stands for it** (`Registry.written_toDoc`): for the registry
  in its normal form, since the blanks around an interface are written as they are.  So it is
  read back, whatever blanks stand behind it (`Registry.parse_text_append`).
-/
import GuestPorts.Proofs.Json.Documents
import GuestPorts.Proofs.Registry.Spellings

namespace GuestPorts

open GuestPorts.Json

/-! ### What can be written at all -/

theorem printable_objectDoc {members : List (String × Doc)} (h : ∀ m ∈ members, m.2.Printable) :
    (objectDoc members).Printable := by
  show (membersDoc members).Printable
  induction members with
  | nil => trivial
  | cons m rest ih =>
    exact ⟨h m List.mem_cons_self, ih fun n hn => h n (List.mem_cons_of_mem _ hn)⟩

theorem printable_listDoc {elements : List Doc} (h : ∀ d ∈ elements, d.Printable) :
    (listDoc elements).Printable := by
  show (Items.ofList elements).Printable
  induction elements with
  | nil => trivial
  | cons d rest ih =>
    exact ⟨h d List.mem_cons_self, ih fun e he => h e (List.mem_cons_of_mem _ he)⟩

theorem printable_portDoc (p : Port) : (portDoc p).Printable := Numeral.spelled_ofNat p.toNat

theorem printable_of_mem_setMember {name : String} {value : Option String} {m : String × Doc}
    (h : m ∈ setMember name value) : m.2.Printable := by
  cases value with
  | none => cases h
  | some s =>
    rw [List.mem_singleton.1 h]
    trivial

theorem Written.printable {fields : List Field} {d : Doc} (h : Written fields d) :
    d.Printable := by
  obtain ⟨members, rfl, -, hprintable⟩ := h
  exact printable_objectDoc hprintable

/-! ### Members that are written -/

theorem among_cons (names : List String) (m : String × Doc) (rest : List (String × Doc)) :
    among names (m :: rest) = if m.1 ∈ names then m :: among names rest else among names rest := by
  split
  · next h => exact among_cons_of_mem h rest
  · next h => exact among_cons_of_notMem h rest

theorem among_append (names : List String) (ms ms' : List (String × Doc)) :
    among names (ms ++ ms') = among names ms ++ among names ms' := List.filter_append ms ms'

theorem among_setMember (names : List String) (name : String) (value : Option String) :
    among names (setMember name value) = if name ∈ names then setMember name value else [] := by
  unfold among
  cases value <;> simp [setMember, List.filter_cons]

/-- A text stands for itself without the blanks around it. -/
theorem spellsText_tidy (s : String) : SpellsText (tidy s) (.ofString s) := by
  unfold tidy
  split
  · next hblank =>
    exact .blank (List.all_eq_true.2 (Text.trim_eq_nil_iff.1 hblank))
  · obtain ⟨front, back, hfront, hback, hs⟩ := Text.exists_blanks_around_trim s.toList
    have htext : s = String.ofList front ++ Text.trimmed s ++ String.ofList back := by
      rw [← String.toList_inj]
      simpa using hs
    have hspells : SpellsText (some (Text.trimmed s))
        (.ofString (String.ofList front ++ Text.trimmed s ++ String.ofList back)) :=
      .padded (by rwa [String.toList_ofList]) (by rwa [String.toList_ofList])
    rwa [← htext] at hspells

theorem spellsText_self (s : String) : SpellsText (some s) (.ofString s) := by
  have hspells : SpellsText (some s) (.ofString ("" ++ s ++ "")) := .padded rfl rfl
  rwa [String.empty_append, String.append_empty] at hspells

namespace Field

variable {names : List String} {name : String} {members : List (String × Doc)}

theorem fixed_in (name : String) {d : Doc} (h : among names members = [(name, d)]) :
    (fixed names d).In members := .inr ⟨_, h, rfl⟩

theorem bound_in {p : Port} (h : among [name] members = [(name, portDoc p)]) :
    (bound name p).In members := .inr ⟨_, h, rfl⟩

theorem list_in {α : Type} {spells : α → Doc → Prop} {xs : List α} {docs : List Doc}
    (hdocs : List.Forall₂ spells xs docs) (h : among [name] members = [(name, listDoc docs)]) :
    (list name spells xs).In members := .inr ⟨_, h, .elements hdocs⟩

/-- A member that is written only when its field is set. -/
theorem text_in {value written : Option String} (h : among [name] members = setMember name written)
    (hnone : written = none → value = none)
    (hsome : ∀ s ∈ written, SpellsText value (.ofString s)) : (text name value).In members := by
  cases written with
  | none => exact .inl ⟨h, hnone rfl⟩
  | some s => exact .inr ⟨(name, .ofString s), h, hsome s rfl⟩

theorem text_in_self {value : Option String} (h : among [name] members = setMember name value) :
    (text name value).In members := by
  refine text_in h id ?_
  rintro s rfl
  exact spellsText_self s

end Field

/-! ### Records that are written -/

theorem Mapping.written_toDoc (m : Mapping) : Written m.fields m.toDoc := by
  refine ⟨_, rfl, ?_, ?_⟩
  · simp only [fields, List.forall_mem_cons]
    exact ⟨Field.fixed_in "host_port" rfl, Field.fixed_in "vm_port" rfl,
      Field.fixed_in "protocol" rfl, nofun⟩
  · simp only [List.forall_mem_cons]
    exact ⟨printable_portDoc _, printable_portDoc _, trivial, nofun⟩

theorem PortRange.written_toDoc (r : PortRange) : Written r.fields r.toDoc := by
  refine ⟨_, rfl, ?_, ?_⟩
  · simp only [fields, List.forall_mem_cons]
    exact ⟨Field.bound_in rfl, Field.bound_in rfl, Field.bound_in rfl, Field.bound_in rfl,
      Field.fixed_in "protocol" rfl, nofun⟩
  · simp only [List.forall_mem_cons]
    exact ⟨printable_portDoc _, printable_portDoc _, printable_portDoc _, printable_portDoc _,
      trivial, nofun⟩

theorem Declaration.written_toDoc (d : Declaration) : Written d.normalized.fields d.toDoc := by
  have hmappings : List.Forall₂ (fun m => Written m.fields) d.portMap
      (d.portMap.map Mapping.toDoc) :=
    List.forall₂_map_right_iff.2 (List.forall₂_same.2 fun m _ => m.written_toDoc)
  have hranges : List.Forall₂ (fun r => Written r.fields) d.portRanges
      (d.portRanges.map PortRange.toDoc) :=
    List.forall₂_map_right_iff.2 (List.forall₂_same.2 fun r _ => r.written_toDoc)
  refine ⟨_, rfl, ?_, ?_⟩
  · have hinterface : ∀ s ∈ d.interface, SpellsText d.normalized.interface (.ofString s) := by
      intro s hs
      have htidy : d.normalized.interface = tidy s := by rw [normalized, hs]; rfl
      rw [htidy]
      exact spellsText_tidy s
    have hunset : d.interface = none → d.normalized.interface = none := by
      intro hnone
      rw [normalized, hnone]
      rfl
    simp only [fields, List.forall_mem_cons]
    refine ⟨Field.fixed_in "vm_name" ?_, Field.list_in hmappings ?_,
      Field.list_in hranges ?_, Field.text_in_self ?_, Field.text_in_self ?_,
      Field.text_in_self ?_, Field.text_in ?_ hunset hinterface, Field.text_in_self ?_, nofun⟩
    all_goals simp [among_append, among_cons, among_setMember, normalized]
  · have hmap : (listDoc (d.portMap.map Mapping.toDoc)).Printable :=
      printable_listDoc (List.forall_mem_map.2 fun m _ => m.written_toDoc.printable)
    have hrange : (listDoc (d.portRanges.map PortRange.toDoc)).Printable :=
      printable_listDoc (List.forall_mem_map.2 fun r _ => r.written_toDoc.printable)
    simp only [List.forall_mem_append, List.forall_mem_cons]
    exact ⟨⟨⟨⟨⟨⟨trivial, hmap, hrange, nofun⟩, fun _ => printable_of_mem_setMember⟩,
      fun _ => printable_of_mem_setMember⟩, fun _ => printable_of_mem_setMember⟩,
      fun _ => printable_of_mem_setMember⟩, fun _ => printable_of_mem_setMember⟩

/-- **What is written for a registry stands for it**, its interfaces without the blanks around
    them. -/
theorem Registry.written_toDoc (r : Registry) : Written r.normalized.fields r.toDoc := by
  have hentries : List.Forall₂ (fun d => Written d.fields) (r.entries.map Declaration.normalized)
      (r.entries.map Declaration.toDoc) := by
    rw [List.forall₂_map_left_iff, List.forall₂_map_right_iff, List.forall₂_same]
    exact fun d _ => d.written_toDoc
  refine ⟨_, rfl, ?_, ?_⟩
  · simp only [fields, List.forall_mem_cons]
    refine ⟨Field.list_in hentries ?_, Field.text_in_self ?_, nofun⟩
    all_goals simp [among_cons, among_setMember, normalized]
  · have hconfigs : (listDoc (r.entries.map Declaration.toDoc)).Printable :=
      printable_listDoc (List.forall_mem_map.2 fun d _ => d.written_toDoc.printable)
    rw [List.forall_mem_cons]
    exact ⟨hconfigs, fun _ => printable_of_mem_setMember⟩

/-! ### Reading what was written -/

theorem Declaration.normalized_normalized (d : Declaration) : d.normalized.normalized = d.normalized := by
  have htwice : (d.interface.bind tidy).bind tidy = d.interface.bind tidy := by
    cases htidy : d.interface.bind tidy with
    | none => rfl
    | some i =>
      obtain ⟨s, -, hs⟩ := Option.bind_eq_some_iff.1 htidy
      exact tidy_of_tidy_eq_some hs
  unfold normalized
  rw [htwice]

theorem Registry.normalized_normalized (r : Registry) : r.normalized.normalized = r.normalized := by
  have hentries : (r.entries.map Declaration.normalized).map Declaration.normalized
      = r.entries.map Declaration.normalized := by
    rw [List.map_map]
    exact List.map_congr_left fun d _ => d.normalized_normalized
  unfold normalized
  rw [hentries]

theorem Registry.Dated.normalized {r : Registry} (h : r.Dated) : r.normalized.Dated := by
  refine ⟨?_, h.2⟩
  intro d hd
  obtain ⟨d, hmem, rfl⟩ := List.mem_map.1 hd
  exact h.1 d hmem

/-- **A registry comes back with its declarations in their normal form.** -/
theorem Registry.ofDoc_toDoc {r : Registry} (h : r.Dated) :
    Registry.ofDoc r.toDoc = .ok r.normalized :=
  ofDoc_of_written r.normalized_normalized h.normalized r.written_toDoc

theorem Registry.parse_of_read {s : String} {d : Doc} {r : Registry}
    (hread : read s.toList = (d, true)) (hdecode : Registry.ofDoc d = .ok r) :
    Registry.parse s = .ok r := by
  unfold Registry.parse decodeText
  rw [hread]
  simp only [hdecode, Except.ok_bind, if_true]
  rfl

/-- The document of a registry is read back, whatever blanks stand behind it. -/
theorem Registry.parse_text_append {r : Registry} (h : r.Dated) {behind : String}
    (hblank : skipSpace behind.toList = []) :
    Registry.parse (r.text ++ behind) = .ok r.normalized := by
  apply parse_of_read _ (ofDoc_toDoc h)
  rw [Registry.text, Doc.text, String.toList_append, String.toList_ofList]
  exact read_pretty r.written_toDoc.printable hblank

end GuestPorts
